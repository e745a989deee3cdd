/-!
# Files

What the calculator learns of the files around it: whether a path leads anywhere, and what reading
it gives. Only these two questions are asked, so the answers may come from a tree of files held in
memory or from a disk.

Content is bytes. A text in it has to be UTF-8; content that is not is as unreadable as a missing
file.
-/

namespace StringCalculator

/-- Why reading a file gives no text. -/
inductive ReadError where
  /-- The path leads nowhere. -/
  | missing
  /-- The path goes on behind a file. -/
  | notDirectory
  /-- The path leads to a directory. -/
  | isDirectory
  /-- The path, or a name in it, is longer than file systems allow. -/
  | nameTooLong
  /-- The content is not UTF-8. -/
  | notText
  /-- Anything else the system may report, in its own words. -/
  | other (description : String)
deriving DecidableEq

/-- The number a system error carries, behind its description. -/
def numbered (description : String) (code : Nat) : String :=
  description ++ " (os error " ++ String.ofList (Nat.toDigits 10 code) ++ ")"

/-- What is said about content that is not UTF-8. -/
def notTextMessage : String :=
  "stream did not contain valid UTF-8"

/-- What is said about a file that cannot be read. -/
def ReadError.message : ReadError → String
  | missing => numbered "No such file or directory" 2
  | notDirectory => numbered "Not a directory" 20
  | isDirectory => numbered "Is a directory" 21
  | nameTooLong => numbered "File name too long" 36
  | notText => notTextMessage
  | other description => description

/-- The error behind a number that the system reports, with the system's words for it. -/
def ReadError.ofCode (code : Nat) (description : String) : ReadError :=
  match code with
  | 2 => missing
  | 20 => notDirectory
  | 21 => isDirectory
  | 36 => nameTooLong
  | _ => other (numbered description code)

/-- What reading a path gives. -/
abbrev Contents := Except ReadError (List UInt8)

/-- The text that bytes spell in UTF-8. -/
def decode? (bytes : List UInt8) : Option String :=
  String.fromUTF8? bytes.toByteArray

/-- The text in a file. -/
def Contents.text : Contents → Except ReadError String
  | .error e => .error e
  | .ok bytes =>
    match decode? bytes with
    | some s => .ok s
    | none => .error .notText

/-- The files around a program. -/
structure Files where
  /-- What reading a path gives. -/
  read : String → Contents
  /-- Whether a path leads to a file or a directory. -/
  holds : String → Bool

end StringCalculator
