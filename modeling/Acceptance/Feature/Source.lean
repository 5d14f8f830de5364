import Acceptance.Feature.Scan

/-! Reading features from a source of bytes that may fail. -/
namespace Acceptance.Feature

inductive FaultKind where
  | interrupted | other
  deriving DecidableEq, Repr

/-- What a source gives when it is read. Only where no delivery is left are the data at their end; one of no
bytes is passed over. -/
inductive Delivery where
  | bytes (bs : List UInt8)
  | fault (kind : FaultKind) (message : String)
  deriving DecidableEq, Repr

abbrev Source := List Delivery

/-- All bytes up to the end or the first fault that is not an interruption, and that fault. -/
def Source.drain : Source → List UInt8 × Option String
  | [] => ([], none)
  | .bytes bs :: rest =>
    let (more, fault) := drain rest
    (bs ++ more, fault)
  | .fault .interrupted _ :: rest => drain rest
  | .fault .other message :: _ => ([], some message)

structure ReadError where
  line : Nat
  cause : String
  deriving DecidableEq, Repr

def ReadError.message (e : ReadError) : String :=
  s!"failed to read feature text at line {e.line}: {e.cause}"

def invalidText : String := "stream did not contain valid UTF-8"

/-- The lines of the bytes up to the first that is no valid UTF-8, which is line `n` or later. -/
def decodeLines (n : Nat) : List (List UInt8) → List (List Char) × Option ReadError
  | [] => ([], none)
  | line :: more =>
    match String.fromUTF8? ⟨line.toArray⟩ with
    | none => ([], some ⟨n, invalidText⟩)
    | some text =>
      let (texts, error) := decodeLines (n + 1) more
      (text.toList :: texts, error)

/-- The lines of a source, and the error that ends them. A fault strikes the line that follows the last
complete one. -/
def Source.lines (source : Source) : List (List Char) × Option ReadError :=
  let (bytes, fault) := source.drain
  match fault with
  | none => decodeLines 1 (Text.linesWith 10 13 bytes)
  | some cause =>
    let complete := (Text.cut 10 bytes).1.map (Text.dropRet 13)
    let (texts, error) := decodeLines 1 complete
    (texts, error.or (some ⟨complete.length + 1, cause⟩))

/-- All features of a source, or the error that makes them unknown, and the log. -/
def scanAllSource (source : Source) : Except ReadError (List Feature) × List LogEntry :=
  let (lines, error) := source.lines
  let scanned := scanLines lines
  match error with
  | none => (.ok scanned.features, scanned.log)
  | some e => (.error e, scanned.log)

/-- The first feature of a source, all of which is read. -/
def scanSource (source : Source) : Except ReadError (Option Feature) × List LogEntry :=
  let (result, log) := scanAllSource source
  (result.map List.head?, log)

end Acceptance.Feature
