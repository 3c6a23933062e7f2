import ArtifactPipeline.Host.Awk.Number
import ArtifactPipeline.Host.Awk.Syntax
import ArtifactPipeline.Host.Tools.Call
import Std.Data.HashMap

set_option autoImplicit false

namespace ArtifactPipeline.Awk

open Text (Octets)

inductive Key where
  | number (n : Int)
  | text (text : Octets)

def Key.asText : Key → Octets
  | .number n => (toString n).toList
  | .text chars => chars

structure Table (α : Type) where
  values : Std.HashMap Octets α := ∅
  mask : Nat := 63
  texts : Array (List Octets) := #[]
  numbers : Array (List Int) := #[]
  named : Bool := false

namespace Table

variable {α : Type}

def hash (text : Octets) : Nat :=
  (text.foldl (fun (h : UInt32) c => (h ^^^ UInt32.ofNat c.toNat) * 16777619) 2166136261).toNat

def size (table : Table α) : Nat :=
  table.values.size

def crowd : Nat := 12

def textPlace (mask : Nat) (key : Octets) : Nat :=
  hash key % (mask + 1)

def numberPlace (mask : Nat) (n : Int) : Nat :=
  (n % (mask + 1 : Nat)).toNat

def buckets {β : Type} (mask : Nat) (found : Array (List β)) : Array (List β) :=
  if found.isEmpty then Array.replicate (mask + 1) [] else found

def toFront {β : Type} [BEq β] (item : β) (place : Nat) (found : Array (List β)) :
    Array (List β) :=
  found.modify place fun items =>
    match items with
    | first :: _ => if first == item then items else item :: items.filter (· != item)
    | [] => [item]

def withTexts (table : Table α) : Table α :=
  if table.named then table
  else
    let texts := buckets table.mask table.texts
    let texts := table.numbers.foldl (fun texts items =>
      items.foldl (fun (texts : Array (List Octets)) n =>
        let key := (toString n).toList
        texts.modify (textPlace table.mask key) (key :: ·)) texts) texts
    { table with texts, named := true }

def spread {β : Type} (place : Nat → β → Nat) (mask : Nat) (found : Array (List β)) :
    Array (List β) :=
  if found.isEmpty then found
  else
    let next := 2 * mask + 1
    let stays (bucket : Nat) (item : β) : Bool := place next item == bucket
    found.mapIdx (fun bucket items => items.filter (stays bucket)) ++
      found.mapIdx fun bucket items => items.filter fun item => !stays bucket item

def grown (table : Table α) : Table α :=
  if crowd * (table.mask + 1) < table.size then
    { table with
      mask := 2 * table.mask + 1
      texts := spread textPlace table.mask table.texts
      numbers := spread numberPlace table.mask table.numbers }
  else table

def used (table : Table α) (key : Key) : Table α :=
  match key with
  | .text chars =>
      let table := table.withTexts
      { table with texts := toFront chars (textPlace table.mask chars) table.texts }
  | .number n =>
      let place := numberPlace table.mask n
      let numbers := buckets table.mask table.numbers
      let known := (numbers[place]?.getD []).contains n
      let numbers := toFront n place numbers
      if known || !table.named then { table with numbers }
      else
        let text := key.asText
        { table with numbers, texts := toFront text (textPlace table.mask text) table.texts }

def find? (table : Table α) (key : Key) : Option α × Table α :=
  match table.values[key.asText]? with
  | some value => (some value, table.used key)
  | none =>
      -- Looking for a text makes the others known by theirs.
      match key with
      | .text _ => (none, if table.values.isEmpty then table else table.withTexts)
      | .number _ => (none, table)

def insert (table : Table α) (key : Key) (value : α) : Table α :=
  let table := table.used key
  ({ table with values := table.values.insert key.asText value } : Table α).grown

def erase (table : Table α) (key : Key) : Table α :=
  let text := key.asText
  if !table.values.contains text then (table.find? key).2
  else if table.values.size = 1 then {}
  else
    let table := match key with
      | .text _ => table.withTexts
      | .number _ => table
    let number? := (String.ofList text).toInt?.filter fun n => (toString n).toList = text
    { table with
      values := table.values.erase text
      texts := if table.texts.isEmpty then table.texts
        else table.texts.modify (textPlace table.mask text) fun items => items.filter (· != text)
      numbers := match number? with
        | some n =>
            if table.numbers.isEmpty then table.numbers
            else table.numbers.modify (numberPlace table.mask n) fun items =>
              items.filter (· != n)
        | none => table.numbers }

def keys (table : Table α) : List Octets × Table α :=
  if table.values.isEmpty then ([], table)
  else
    let table := table.withTexts
    (table.texts.toList.flatten, table)

def maskFor : Nat → Nat → Nat → Nat
  | 0, mask, _ => mask
  | fuel + 1, mask, count =>
      if crowd * (mask + 1) < count then maskFor fuel (2 * mask + 1) count else mask

def ofList (values : List α) : Table α :=
  if values.isEmpty then {}
  else
    let mask := maskFor 64 63 values.length
    let start : Table α := { mask, numbers := Array.replicate (mask + 1) [] }
    (values.foldl (fun (found : Nat × Table α) value =>
      let n := found.1 + 1
      let table := found.2
      (n, { table with
        values := table.values.insert (Tools.decimal n) value
        numbers := table.numbers.modify (n % (mask + 1)) ((n : Int) :: ·) })) (0, start)).2

end Table

open Tools (Directive)

inductive Value where
  | unset
  | number (x : Float)
  | text (text : Octets)
  | given (text : Octets)

inductive FormatFault where
  | tooFewArguments
  | improper (number : Nat)
  deriving DecidableEq, Repr

def FormatFault.message (function : String) (format : Octets) : FormatFault → String
  | .tooFewArguments =>
      "not enough arguments passed to " ++ function ++ "(\"" ++ String.ofList format ++ "\")"
  | .improper number =>
      "improper conversion(number " ++ Nat.repr number ++ ") in " ++ function ++ "(\"" ++
        String.ofList format ++ "\")"

namespace Value

def ofBool (test : Bool) : Value :=
  .number (if test then 1.0 else 0.0)

def ofNat (n : Nat) : Value :=
  .number (Float.ofNat n)

def toNumber : Value → Float
  | .unset => 0.0
  | .number x => x
  | .text chars | .given chars => Awk.numberOf chars

def asNumber? : Value → Option Float
  | .unset => some 0.0
  | .number x => some x
  | .text _ => none
  | .given chars => looksLike? chars

def isTrue : Value → Bool
  | .unset => false
  | .number x => x != 0.0
  | .text chars => !chars.isEmpty
  | .given chars =>
      match looksLike? chars with
      | some x => x != 0.0
      | none => !chars.isEmpty

end Value

def countAt (text : Octets) (args : List Value) : Option (Option Int × Octets × List Value) :=
  match text with
  | '*' :: rest =>
      match args with
      | [] => none
      | arg :: args => some (some (truncated arg.toNumber), rest, args)
  | text =>
      let digits := text.takeWhile Char.isDigit
      some ((Tools.number? digits).map Int.ofNat, text.drop digits.length, args)

def charOf (value : Value) : Char :=
  let ofNumber (x : Float) : Char := Char.ofNat ((truncated x) % 256).toNat
  match value with
  | .unset => Char.ofNat 0
  | .number x => ofNumber x
  | .text chars => chars.head?.getD (Char.ofNat 0)
  | .given chars =>
      match looksLike? chars with
      | some x => ofNumber x
      | none => chars.head?.getD (Char.ofNat 0)

def shownBy? (textOf : Value → Octets) (directive : Directive) (value : Value) : Option Octets :=
  match directive.conversion with
  | 's' =>
      let chars := textOf value
      some (directive.fill (match directive.precision with
        | some precision => chars.take precision
        | none => chars))
  | 'c' => some (directive.fill [charOf value])
  | c =>
      if "diouxXeEfFgG".toList.contains c then some (showWith directive value.toNumber) else none

def formatted (textOf : Value → Octets) :
    Nat → Nat → Octets → List Value → List Octets → List Octets × Option FormatFault
  | 0, _, _, _, pieces => (pieces, none)
  | fuel + 1, number, format, args, pieces =>
      let plain := format.takeWhile (· != '%')
      let pieces := if plain.isEmpty then pieces else plain :: pieces
      match format.drop plain.length with
      | [] => (pieces, none)
      | '%' :: '%' :: rest => formatted textOf fuel number rest args (['%'] :: pieces)
      | _ :: rest =>
          let number := number + 1
          let (directive, rest) := Tools.readFlags {} rest
          match countAt rest args with
          | none => (pieces, some .tooFewArguments)
          | some (width, rest, args) =>
              let width := width.getD 0
              let directive := { directive with
                leftAlign := directive.leftAlign || width < 0
                width := width.natAbs }
              let precision? : Option (Int × Octets × List Value) :=
                match rest with
                | '.' :: rest =>
                    (countAt rest args).map fun (count, rest, args) => (count.getD 0, rest, args)
                | rest => some (-1, rest, args)
              match precision? with
              | none => (pieces, some .tooFewArguments)
              | some (precision, rest, args) =>
                  let directive := { directive with
                    precision := if precision < 0 then none else some precision.toNat }
                  match args, rest.dropWhile fun c => c == 'h' || c == 'l' with
                  | [], _ => (pieces, some .tooFewArguments)
                  | _, [] => (pieces, some (.improper number))
                  | arg :: args, c :: rest =>
                      match shownBy? textOf { directive with conversion := c } arg with
                      | some chars => formatted textOf fuel number rest args (chars :: pieces)
                      | none => (pieces, some (.improper number))

def formatValues (textOf : Value → Octets) (format : Octets) (args : List Value) :
    Octets × Option FormatFault :=
  let (pieces, fault) := formatted textOf (format.length + 1) 0 format args []
  (pieces.reverse.flatten, fault)

def numberText (format : Octets) (x : Float) : Octets :=
  match wholeText? x with
  | some digits => digits
  | none => (formatValues (fun _ => []) format [.number x]).1

namespace Value

def toText (format : Octets) : Value → Octets
  | .unset => []
  | .number x => numberText format x
  | .text chars | .given chars => chars

def order (first second : Octets) : Ordering :=
  match first, second with
  | [], [] => .eq
  | [], _ => .lt
  | _, [] => .gt
  | c :: first, d :: second => if c < d then .lt else if d < c then .gt else order first second

def compare (format : Octets) (first second : Value) : Ordering :=
  match first.asNumber?, second.asNumber? with
  | some x, some y => if x < y then .lt else if y < x then .gt else .eq
  | _, _ => order (first.toText format) (second.toText format)

end Value

def Relation.holds (relation : Relation) (order : Ordering) : Bool :=
  match relation with
  | .less => order == .lt
  | .atMost => order != .gt
  | .equal => order == .eq
  | .unequal => order != .eq
  | .greater => order == .gt
  | .atLeast => order != .lt

def Arith.apply (operation : Arith) (x y : Float) : Float :=
  match operation with
  | .add => x + y
  | .subtract => x - y
  | .multiply => x * y
  | .divide => x / y
  | .remainder => Awk.remainder x y
  | .power => Float.pow x y

def keyLimit : Float := 2147483647.0

def Key.ofValue (format : Octets) (value : Value) : Key :=
  match value with
  | .number x =>
      if -keyLimit - 1.0 ≤ x && x ≤ keyLimit && x.floor == x then .number (truncated x)
      else .text (numberText format x)
  | value => .text (value.toText format)

end ArtifactPipeline.Awk
