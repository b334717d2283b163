import ProcessLaunch.Json.Object

/-!
# Incoming messages

A message tells of a file to be processed.  It is written as a compact JSON object with its fields
in a fixed order, and read from an object with its members in any order or from an array of its
fields.
-/

namespace ProcessLaunch

structure IncomingMessage where
  fileDataSeq : Option Int64
  channelRef : String
  outputChannelCode : String
  fileS3Path : String
deriving DecidableEq, Hashable, Repr

namespace IncomingMessage

/-! ## Writing -/

def writeSequence : Option Int64 → List Char
  | none => "null".toList
  | some n => (toString n.toInt).toList

def writeMember (name : String) (value : List Char) : List Char :=
  Json.writeString name ++ ':' :: value

def encodeChars (m : IncomingMessage) : List Char :=
  '\x7b' :: [','].intercalate
    [writeMember "fileDataSeq" (writeSequence m.fileDataSeq),
      writeMember "channelRef" (Json.writeString m.channelRef),
      writeMember "outputChannelCode" (Json.writeString m.outputChannelCode),
      writeMember "fileS3Path" (Json.writeString m.fileS3Path)] ++ ['\x7d']

def encode (m : IncomingMessage) : String := String.ofList m.encodeChars

/-! ## Reading -/

open Json

structure Fields where
  fileDataSeq : Option (Option Int64)
  channelRef : Option String
  outputChannelCode : Option String
  fileS3Path : Option String

namespace Fields

def empty : Fields := ⟨none, none, none, none⟩

def member (fields : Fields) (key : String) : Member Fields :=
  match key with
  | "fileDataSeq" =>
      once key fields.fileDataSeq
        ((optional integer64).map fun n => { fields with fileDataSeq := some n })
  | "channelRef" =>
      once key fields.channelRef (string.map fun s => { fields with channelRef := some s })
  | "outputChannelCode" =>
      once key fields.outputChannelCode
        (string.map fun s => { fields with outputChannelCode := some s })
  | "fileS3Path" =>
      once key fields.fileS3Path (string.map fun s => { fields with fileS3Path := some s })
  | _ => .skipped

/-- The message of the fields.  All but the sequence number have to be there. -/
def message (fields : Fields) : Reader IncomingMessage := do
  let channelRef ← requiredField "channelRef" fields.channelRef
  let outputChannelCode ← requiredField "outputChannelCode" fields.outputChannelCode
  let fileS3Path ← requiredField "fileS3Path" fields.fileS3Path
  return ⟨fields.fileDataSeq.join, channelRef, outputChannelCode, fileS3Path⟩

end Fields

def arrayText : String := "struct IncomingMessage with 4 elements"

def object : Reader IncomingMessage := do (← members Fields.member .empty).message

def array : Reader IncomingMessage := do
  let fileDataSeq ← requiredElement 0 arrayText (optional integer64)
  let channelRef ← requiredElement 1 arrayText string
  let outputChannelCode ← requiredElement 2 arrayText string
  let fileS3Path ← requiredElement 3 arrayText string
  endOfArray
  return ⟨fileDataSeq, channelRef, outputChannelCode, fileS3Path⟩

def value : ValueReader IncomingMessage := recordOf "struct IncomingMessage" object array

def decode (text : String) : Except Json.Error IncomingMessage :=
  value.spaced.readAll text.toList

end IncomingMessage

end ProcessLaunch
