import ArtifactPipeline.Host.Awk.Eval
import ArtifactPipeline.Host.Awk.Reader

set_option autoImplicit false

namespace ArtifactPipeline.Awk

open Text (Octets)
open Tools (Call Exec Tool)

structure Plan where
  separator : Option Octets := none
  assigned : List (String × Octets) := []
  files : List Octets := []
  remarks : List String := []
  operands : List Octets := []

inductive Request where
  | run (plan : Plan)
  | version
  | usage
  | refusal (message : String)

def usageLines : List String := [
  "Usage: mawk [Options] [Program] [file ...]",
  "",
  "Program:",
  "    The -f option value is the name of a file containing program text.",
  "    If no -f option is given, a \"--\" ends option processing; the following",
  "    parameters are the program text.",
  "",
  "Options:",
  "    -f program-file  Program  text is read from file instead of from the",
  "                     command-line.  Multiple -f options are accepted.",
  "    -F value         sets the field separator, FS, to value.",
  "    -v var=value     assigns value to program variable var.",
  "    --               unambiguous end of options.",
  "",
  "    Implementation-specific options are prefixed with \"-W\".  They can be",
  "    abbreviated:",
  "",
  "    -W version       show version information and exit.",
  "    -W compat        pre-POSIX 2001.",
  "    -W dump          show assembler-like listing of program and exit.",
  "    -W help          show this message and exit.",
  "    -W interactive   set unbuffered output, line-buffered input.",
  "    -W exec file     use file as program as well as last option.",
  "    -W posix         stricter POSIX checking.",
  "    -W random=number set initial random seed.",
  "    -W sprintf=number adjust size of sprintf buffer.",
  "    -W usage         show this message and exit."
]

def usageText : String :=
  String.join (usageLines.map fun line => line ++ "\n")

def versionText : String :=
  "mawk 1.3.4 20240123\n"

def longNames : List String :=
  ["version", "compat", "dump", "help", "interactive", "posix", "random", "sprintf", "usage"]

def longOption (plan : Plan) (text : Octets) : Plan ⊕ Request :=
  let name := text.takeWhile (· != '=')
  match longNames.filter fun known => name.isPrefixOf known.toList with
  | ["version"] => .inr .version
  | ["help"] | ["usage"] => .inr .usage
  | [] =>
      .inl { plan with
        remarks := plan.remarks ++ ["vacuous option: -W \"" ++ String.ofList text ++ "\""] }
  | _ => .inl plan

def readArguments : Nat → Plan → List Octets → Request
  | 0, _, _ => .usage
  | fuel + 1, plan, args =>
      match args with
      | ['-', '-'] :: rest => .run { plan with operands := rest }
      | ('-' :: '-' :: name) :: rest =>
          match longOption plan name with
          | .inl plan => readArguments fuel plan rest
          | .inr request => request
      | ('-' :: letter :: value) :: rest =>
          if "FvfW".toList.contains letter then
            let found? : Option (Octets × List Octets) :=
              match value, rest with
              | [], value :: rest => some (value, rest)
              | [], [] => none
              | value, rest => some (value, rest)
            match found? with
            | none => .refusal ("option -" ++ String.singleton letter ++ " lacks argument")
            | some (value, rest) =>
                if letter == 'F' then
                  readArguments fuel { plan with
                    separator := some (Lexeme.unescaped (value.length + 1) value) } rest
                else if letter == 'f' then
                  readArguments fuel { plan with files := plan.files ++ [value] } rest
                else if letter == 'W' then
                  match longOption plan value with
                  | .inl plan => readArguments fuel plan rest
                  | .inr request => request
                else
                  match assignment? value with
                  | some assigned =>
                      readArguments fuel { plan with
                        assigned := plan.assigned ++ [assigned] } rest
                  | none => .refusal ("improper assignment: -v " ++ String.ofList value)
          else .refusal ("not an option: " ++ String.ofList ('-' :: letter :: value))
      | rest => .run { plan with operands := rest }

def firstValues (separator : Octets) (args : Nat) : List (Nat × Value) :=
  [(Special.recordCount, .number 0.0), (Special.fileRecordCount, .number 0.0),
    (Special.fieldSeparator, .given separator), (Special.outputSeparator, .text [' ']),
    (Special.outputEnding, .text ['\n']), (Special.recordSeparator, .text ['\n']),
    (Special.matchStart, .number 0.0), (Special.matchLength, .number (-1.0)),
    (Special.keySeparator, .text ['\x1c']), (Special.conversion, .text "%.6g".toList),
    (Special.outputFormat, .text "%.6g".toList), (Special.argumentCount, .ofNat args)]

def setValues : List (Nat × Value) → Act Unit
  | [] => return ()
  | (place, value) :: rest => do
      setValueAt place value
      setValues rest

def enter (number : Nat) : List (Key × Octets) → Act Unit
  | [] => return ()
  | (key, text) :: rest => do
      setItemAt number key (.given text)
      enter number rest

def assignEach : List (String × Octets) → Act Unit
  | [] => return ()
  | (name, value) :: rest => do
      assignNamed name value
      assignEach rest

def runPlan (program : Program) (plan : Plan) : Act Unit := do
  let world ← get
  let args := Tools.baseName world.call.name :: plan.operands
  setValues (firstValues (plan.separator.getD [' ']) args.length)
  enter (← tableAt Special.environment)
    (world.call.vars.map fun (name, value) => (.text name, value))
  enter (← tableAt Special.arguments)
    ((List.range args.length).zip args |>.map fun (index, arg) => (.number index, arg))
  assignEach plan.assigned
  runProgram program

def outletLimit : Nat := 1000000

def carryOut (exec : Exec) (call : Call) (program : Program) (plan : Plan) : Chore Nat := do
  let start : World := {
    call := { call with name := Tools.baseName call.name }
    exec
    program
    slots := Array.replicate program.names.length .unset
    active := Array.replicate program.ranges false
    outlets := [
      { name := "/dev/stdout".toList, kind := .write, descriptor := 1 },
      { name := "/dev/stderr".toList, kind := .write, descriptor := 2, direct := true }] }
  let (_, world) ← ((runPlan program plan).run).run start
  let (_, world) ← ((closeOutlets outletLimit).run).run world
  return world.status

def programText : List Octets → Octets → Chore (Except (Octets × HostFault) Octets)
  | [], read => return .ok read
  | path :: rest, read => do
      match ← Tools.contentOf path with
      | .ok text => programText rest (read ++ text ++ ['\n'])
      | .error fault => return .error (path, fault)

def awk (exec : Exec) : Tool := fun call => do
  let name := Tools.baseName call.name
  match readArguments (call.args.length + 1) {} call.args with
  | .version => Tools.finish call (Text.octets versionText) 0
  | .usage => Tools.finish call (Text.octets usageText) 0
  | .refusal message => do
      Tools.complain name message
      return 2
  | .run plan => do
      Chore.forEach plan.remarks (Tools.complain name)
      match plan.files, plan.operands with
      | [], [] => do
          let _ ← Chore.write 2 (Text.octets usageText)
          return 0
      | files, operands => do
          let (files, plan) : Option (List Octets) × Plan :=
            if files.isEmpty then (none, { plan with operands := operands.drop 1 })
            else (some files, plan)
          let text ←
            match files with
            | none => pure (.ok (operands.headD []))
            | some files => programText files []
          match text with
          | .error (path, fault) => do
              Tools.complain name
                ("cannot open \"" ++ String.ofList path ++ "\" (" ++ fault.message ++ ")")
              return 2
          | .ok text =>
              match Program.ofText text with
              | .ok program => carryOut exec call program plan
              | .error fault => do
                  Tools.complain name ("line " ++ Nat.repr fault.line ++ ": " ++ fault.message)
                  return 2

end ArtifactPipeline.Awk
