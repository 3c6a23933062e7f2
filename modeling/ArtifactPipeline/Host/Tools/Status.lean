import ArtifactPipeline.Host.Tools.Entries
import ArtifactPipeline.Host.Tools.Files
import ArtifactPipeline.Host.Tools.Format
import ArtifactPipeline.Host.Tools.Naming

set_option autoImplicit false

namespace ArtifactPipeline.Tools

open Text (Octets)

namespace Status

def kindName (node : Inode) : String :=
  match node with
  | .file content _ _ => if content.isEmpty then "regular empty file" else "regular file"
  | .tool _ => "regular file"
  | .dir _ _ => "directory"
  | .link _ _ => "symbolic link"
  | .device _ => "character special file"
  | .fifo _ _ => "fifo"

def kindBits (node : Inode) : Nat :=
  match node with
  | .file _ _ _ | .tool _ => 0o100000
  | .dir _ _ => 0o40000
  | .link _ _ => 0o120000
  | .device _ => 0o20000
  | .fifo _ _ => 0o10000

def deviceNumber : Nat := 254 * 256

inductive Field where
  | text (text : Octets)
  | number (value : Nat)
  | octal (value : Nat)
  | hex (value : Nat)
  | seconds (time : Nat)

def timeText (zone : Zone) (time : Nat) : Octets :=
  formatDate zone time "%Y-%m-%d %H:%M:%S.%N %z".toList

def fieldOf (zone : Zone) (naming : NameStyle) (disk : HostDisk) (path : Octets)
    (entry : HostEntry) (c : Char) : Field :=
  let mtime := HostDisk.mtimeOf entry.node
  let (major, minor) := match entry.node with
    | .device device => deviceNumbers device
    | _ => (0, 0)
  match c with
  | 'n' => .text path
  | 'N' =>
      let name (text : Octets) : Octets := naming.apply (fun _ => false) text
      match entry.node with
      | .link target _ => .text (name path ++ " -> ".toList ++ name target)
      | _ => .text (name path)
  | 's' => .number (sizeOf disk entry)
  | 'b' => .number (roomOf disk entry / 512)
  | 'B' => .number 512
  | 'o' => .number clusterSize
  | 'F' => .text (kindName entry.node).toList
  | 'f' => .hex (kindBits entry.node + HostDisk.modeOf entry.node)
  | 'a' => .octal (HostDisk.modeOf entry.node)
  | 'A' => .text (modeText entry.node)
  | 'X' | 'Y' | 'Z' | 'W' => .seconds mtime
  | 'x' | 'y' | 'z' | 'w' => .text (timeText zone mtime)
  | 'h' => .number (nameCount disk entry)
  | 'i' => .number entry.id
  | 'd' => .number deviceNumber
  | 'D' => .hex deviceNumber
  | 'r' => .number (256 * major + minor)
  | 'R' => .hex (256 * major + minor)
  | 't' => .hex major
  | 'T' => .hex minor
  | 'u' | 'g' => .number 0
  | 'U' | 'G' => .text "root".toList
  | 'm' => .text ['/']
  | _ => .text ['?']

def secondsText (directive : Directive) (time : Nat) : Octets :=
  let whole := decimal (time / Moment.second)
  let digits := padLeft '0' 9 (decimal (time % Moment.second))
  let text := match directive.precision with
    | none | some 0 => whole
    | some places =>
        whole ++ '.' :: digits.take places ++ List.replicate (places - digits.length) '0'
  directive.fillNumber [] text

def Field.shown (directive : Directive) : Field → Octets
  | .text shown =>
      directive.fill (match directive.precision with
        | some places => shown.take places
        | none => shown)
  | .number value => ({ directive with conversion := 'u' } : Directive).showInteger value
  | .octal value => ({ directive with conversion := 'o' } : Directive).showInteger value
  | .hex value => ({ directive with conversion := 'x' } : Directive).showInteger value
  | .seconds time => secondsText directive time

def fillIn (field : Char → Field) : Nat → Octets → Octets × Option Octets
  | 0, _ => ([], none)
  | _ + 1, [] => ([], none)
  | fuel + 1, '%' :: rest =>
      let (directive, behind) := readFlags {} rest
      let digits := behind.takeWhile Char.isDigit
      let behind := behind.drop digits.length
      let (precision, behind) : Option Nat × Octets := match behind with
        | '.' :: behind =>
            let places := behind.takeWhile Char.isDigit
            (some ((number? places).getD 9), behind.drop places.length)
        | behind => (none, behind)
      let spec := rest.take (rest.length - behind.length)
      let directive := { directive with width := (number? digits).getD 0, precision }
      let go (text : Octets) (behind : Octets) : Octets × Option Octets :=
        let (more, fault) := fillIn field fuel behind
        (text ++ more, fault)
      match behind with
      | [] => if spec.isEmpty then (['%'], none) else ([], some ('%' :: spec))
      | '%' :: behind =>
          if spec.isEmpty then go ['%'] behind else ([], some ('%' :: spec ++ ['%']))
      | 'H' :: c :: behind =>
          let value := if c == 'd' then deviceNumber else 0
          go ((Field.number (value / 256)).shown directive) behind
      | 'L' :: c :: behind =>
          let value := if c == 'd' then deviceNumber else 0
          go ((Field.number (value % 256)).shown directive) behind
      | c :: behind => go ((field c).shown directive) behind
  | fuel + 1, c :: rest =>
      let (more, fault) := fillIn field fuel rest
      (c :: more, fault)

def unescaped (format : Octets) : Octets :=
  (unescapeAll { hex := true, quotes := true } format).1

def usualFormat (node : Inode) : String :=
  "  File: %N\n  Size: %-10s\tBlocks: %-10b IO Block: %-6o %F\n" ++
  (match node with
    | .device _ => "Device: %Hd,%Ld\tInode: %-10i  Links: %-5h Device type: %Hr,%Lr\n"
    | _ => "Device: %Hd,%Ld\tInode: %-10i  Links: %h\n") ++
  "Access: (%04a/%10.10A)  Uid: (%5u/%8U)   Gid: (%5g/%8G)\n" ++
  "Access: %x\nModify: %y\nChange: %z\n Birth: %w\n"

def terseFormat : String :=
  "%n %s %b %f %u %g %D %i %h %t %T %X %Y %Z %W %o\n"

end Status

def stat : Tool :=
  withOptions {
    flags := "Lft"
    valued := "cπκ"
    long := [("cached", 'κ'), ("dereference", 'L'), ("file-system", 'f'), ("format", 'c'),
      ("printf", 'π'), ("terse", 't')] } 1 fun call given =>
    if given.operands.isEmpty then misuse call.name "missing operand" 1
    else do
      let zone := Zone.ofVars call.vars
      let naming := ((call.vars.lookup "QUOTING_STYLE".toList).bind fun text =>
        (choose NameStyle.named text).toOption).getD .shellEscapeAlways
      let asked := (given.options.filter fun (letter, _) => letter == 'c' || letter == 'π').getLast?
      eachOperand given.operands fun path => do
        match ← (if given.has 'L' then Chore.stat path else Chore.lstat path) with
        | .error fault => refuse call.name ("cannot statx " ++ quote path ++ ": " ++ fault.message)
        | .ok entry => do
            let disk ← Chore.look fun scene => scene.disk
            let format : Octets := match asked with
              | some ('π', format) => Status.unescaped format
              | some (_, format) => format
              | none =>
                  if given.has 't' then Status.terseFormat.toList
                  else (Status.usualFormat entry.node).toList
            let ending : Octets := match asked with
              | some ('c', _) => ['\n']
              | _ => []
            let usual := asked.isNone && !given.has 't'
            let field (c : Char) : Status.Field :=
              if usual && c == 'N' then
                match entry.node with
                | .link target _ => .text (path ++ " -> ".toList ++ target)
                | _ => .text path
              else Status.fieldOf zone naming disk path entry c
            match Status.fillIn field (format.length + 1) format with
            | (text, none) => finish call (text ++ ending) 0
            | (text, some directive) => do
                let _ ← finish call text 0
                refuse call.name (quote directive ++ ": invalid directive")

end ArtifactPipeline.Tools
