import ValidatorAlarm.Fault

/-!
# Roster files

A roster is kept in a file (`parse_list_file`).  A file that is missing, or that is no text, cannot
be read at all; in one that can be read, the first flawed line is the fault.
-/
namespace ValidatorAlarm.Roster

/-- The roster in a file, whose bytes are given if the file is there. -/
def ofFile (path : String) (bytes : Option (List UInt8)) : Except Fault Roster :=
  match bytes.bind Text.ofUtf8? with
  | none => .error (.file path)
  | some contents =>
    match parse contents with
    | .ok roster => .ok roster
    | .error (line, flaw) => .error (.roster line flaw)

end ValidatorAlarm.Roster
