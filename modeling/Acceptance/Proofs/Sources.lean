import Acceptance.Proofs.TextBytes
import Acceptance.Feature.Source

/-!
Sources of bytes. Whatever the pieces are in which a source delivers its bytes, its features are those of
the text that they are, or it is an error, which names the line that could not be read.
-/
namespace Acceptance.Feature
open Text

/-- The source delivers the bytes, in pieces of any size and interrupted at any places, and ends, or has
another fault after them. -/
inductive Delivers : Source → List UInt8 → Option String → Prop
  | done : Delivers [] [] none
  | piece {source : Source} {bytes : List UInt8} {fault : Option String} (bs : List UInt8)
      (h : Delivers source bytes fault) : Delivers (.bytes bs :: source) (bs ++ bytes) fault
  | interrupted {source : Source} {bytes : List UInt8} {fault : Option String} (message : String)
      (h : Delivers source bytes fault) :
      Delivers (.fault .interrupted message :: source) bytes fault
  | fault (message : String) (rest : Source) :
      Delivers (.fault .other message :: rest) [] (some message)

/-- The number from 0 of the first line whose bytes are no text. -/
def firstInvalid? (lines : List (List UInt8)) : Option Nat :=
  lines.findIdx? fun line => decide (¬ IsEncoded line)

/-- What there is to read in bytes that a source delivers before it ends or has a fault. -/
inductive Reading (bytes : List UInt8) : Option String → Except ReadError (List Feature) → Prop
  | text (text : String) (h : text.toUTF8.data.toList = bytes) :
      Reading bytes none (.ok (scanAll text).features)
  | invalid {n : Nat} (h : ¬ IsEncoded bytes) (hn : firstInvalid? (bytes.splitOn 10) = some n) :
      Reading bytes none (.error ⟨n + 1, "stream did not contain valid UTF-8"⟩)
  | invalidBeforeFault {n : Nat} (message : String)
      (hn : firstInvalid? (bytes.splitOn 10).dropLast = some n) :
      Reading bytes (some message) (.error ⟨n + 1, "stream did not contain valid UTF-8"⟩)
  | fault (message : String) (h : ∀ line ∈ (bytes.splitOn 10).dropLast, IsEncoded line) :
      Reading bytes (some message) (.error ⟨1 + bytes.count 10, message⟩)

theorem drain_of_delivers {source : Source} {bytes : List UInt8} {fault : Option String}
    (h : Delivers source bytes fault) : source.drain = (bytes, fault) := by
  induction h with
  | done => rfl
  | piece bs _ ih => simp [Source.drain, ih]
  | interrupted message _ ih => simp [Source.drain, ih]
  | fault message rest => rfl

theorem decodeLines_encode (n : Nat) (lines : List (List Char)) :
    decodeLines n (lines.map encode) = (lines, none) := by
  induction lines generalizing n with
  | nil => rfl
  | cons line lines ih =>
    have hline : String.fromUTF8? ⟨(encode line).toArray⟩ = some (String.ofList line) :=
      fromUTF8?_eq_some_iff.2 (by rw [String.toList_ofList])
    simp [decodeLines, hline, ih]

/-- Decoding fails at the first line that is no text. -/
theorem error_decodeLines (n : Nat) (lines : List (List UInt8)) :
    (decodeLines n lines).2 = (firstInvalid? lines).map fun k => ⟨n + k, invalidText⟩ := by
  unfold firstInvalid?
  induction lines generalizing n with
  | nil => rfl
  | cons line lines ih =>
    rw [decodeLines, List.findIdx?_cons]
    split
    next hline => simp [fromUTF8?_eq_none_iff.1 hline]
    next text hline =>
      have htext : IsEncoded line := isEncoded_iff.2 ⟨_, fromUTF8?_eq_some_iff.1 hline⟩
      simp [ih, htext, Function.comp_def, Nat.add_assoc, Nat.add_comm 1]

theorem firstInvalid?_map_dropRet (lines : List (List UInt8)) :
    firstInvalid? (lines.map (dropRet 13)) = firstInvalid? lines := by
  simp [firstInvalid?, List.findIdx?_map, Function.comp_def, isEncoded_dropRet]

/-- The lines as they are read have the same first one that is no text as the pieces between line feeds. -/
theorem firstInvalid?_linesWith (bytes : List UInt8) :
    firstInvalid? (linesWith 10 13 bytes) = firstInvalid? (bytes.splitOn 10) := by
  -- an unfinished last line that is empty is not read, and is a text
  have hleft : firstInvalid? (if (cut 10 bytes).2.isEmpty then [] else [(cut 10 bytes).2]) =
      firstInvalid? [(cut 10 bytes).2] := by
    have hempty : IsEncoded [] := isEncoded_encode []
    split
    next h => simp [firstInvalid?, List.isEmpty_iff.1 h, hempty]
    next => rfl
  have happend (as bs : List (List UInt8)) : firstInvalid? (as ++ bs) =
      (firstInvalid? as).or ((firstInvalid? bs).map (· + as.length)) := List.findIdx?_append
  rw [linesWith, Outline.cut_eq_splitOn, happend, happend, hleft, firstInvalid?_map_dropRet,
    List.length_map]

theorem linesWith_encode (s : List Char) :
    linesWith 10 13 (encode s) = (lines s).map encode := by
  have hempty (t : List Char) : encode t = [] ↔ t = [] := by
    cases t <;> simp [encode]
  simp only [lines, linesWith, cut_encode, List.map_append, List.map_map]
  congr 1
  · exact List.map_congr_left fun piece _ => dropRet_encode piece
  · simp only [List.isEmpty_iff, hempty]
    split <;> rfl

theorem firstInvalid?_eq_none_iff {lines : List (List UInt8)} :
    firstInvalid? lines = none ↔ ∀ line ∈ lines, IsEncoded line := by
  simp [firstInvalid?]

/-- The result of a source, by the error among its lines. -/
theorem scanAllSource_eq (source : Source) : (scanAllSource source).1 =
    match source.lines.2 with
    | none => .ok (scanLines source.lines.1).features
    | some e => .error e := by
  unfold scanAllSource
  dsimp only
  split <;> simp_all

theorem lines_of_drain_none {source : Source} {bytes : List UInt8}
    (h : source.drain = (bytes, none)) : source.lines = decodeLines 1 (linesWith 10 13 bytes) := by
  rw [Source.lines, h]

/-- A fault is told of only if no complete line before it is an error. -/
theorem error_lines_of_drain_some {source : Source} {bytes : List UInt8} {message : String}
    (h : source.drain = (bytes, some message)) : source.lines.2 =
      some (match firstInvalid? (bytes.splitOn 10).dropLast with
        | some n => ⟨n + 1, invalidText⟩
        | none => ⟨1 + bytes.count 10, message⟩) := by
  have hlines : (bytes.splitOn 10).dropLast = (cut 10 bytes).1 := by
    rw [Outline.cut_eq_splitOn, List.dropLast_concat]
  rw [Source.lines, h, hlines]
  simp only [error_decodeLines, firstInvalid?_map_dropRet, List.length_map, length_cut]
  cases firstInvalid? (cut 10 bytes).1 <;> simp [Nat.add_comm]

/-- Whatever a source delivers, in whatever pieces, is read as it should be, and of several features the
first one is read only if all of them are. -/
theorem reading_scanAllSource {source : Source} {bytes : List UInt8} {fault : Option String}
    (h : Delivers source bytes fault) :
    Reading bytes fault (scanAllSource source).1 ∧
      (scanSource source).1 = (scanAllSource source).1.map List.head? := by
  refine ⟨?_, rfl⟩
  have hdrain := drain_of_delivers h
  rw [scanAllSource_eq]
  cases fault with
  | none =>
    rw [lines_of_drain_none hdrain]
    by_cases hbytes : IsEncoded bytes
    · obtain ⟨s, rfl⟩ := isEncoded_iff.1 hbytes
      have hlines : decodeLines 1 (linesWith 10 13 (encode s)) = (lines s, none) := by
        rw [linesWith_encode, decodeLines_encode]
      have htext : (String.ofList s).toUTF8.data.toList = encode s := by
        simp [utf8Encode_eq]
      have hread : scanLines (lines s) = scanAll (String.ofList s) := by
        rw [scanAll, String.toList_ofList]
      rw [hlines]
      dsimp only
      rw [hread]
      exact .text (String.ofList s) htext
    · have hinvalid : firstInvalid? (bytes.splitOn 10) ≠ none := fun hnone =>
        hbytes (isEncoded_iff_splitOn.2 (firstInvalid?_eq_none_iff.1 hnone))
      obtain ⟨n, hn⟩ := Option.ne_none_iff_exists'.1 hinvalid
      rw [error_decodeLines, firstInvalid?_linesWith, hn, Option.map_some, Nat.add_comm]
      exact .invalid hbytes hn
  | some message =>
    rw [error_lines_of_drain_some hdrain]
    cases hn : firstInvalid? (bytes.splitOn 10).dropLast with
    | none => exact .fault message (firstInvalid?_eq_none_iff.1 hn)
    | some n => exact .invalidBeforeFault message hn

/-- A feature that is complete when the next line begins, in pieces that cut a character in two, and then
a fault. -/
def faultySource : Source :=
  [.bytes "Feature: a\nFeature: ".toUTF8.data.toList, .bytes [0xC3],
    .fault .interrupted "try again", .bytes [0xA9, 10, 32], .fault .other "reset"]

theorem reading_faultySource :
    Delivers faultySource ("Feature: a\nFeature: ".toUTF8.data.toList ++ [0xC3, 0xA9, 10, 32])
        (some "reset") ∧
      Reading ("Feature: a\nFeature: ".toUTF8.data.toList ++ [0xC3, 0xA9, 10, 32]) (some "reset")
        (scanAllSource faultySource).1 ∧
      (scanSource faultySource).1 = (scanAllSource faultySource).1.map List.head? := by
  have h : Delivers faultySource
      ("Feature: a\nFeature: ".toUTF8.data.toList ++ [0xC3, 0xA9, 10, 32]) (some "reset") :=
    .piece _ (.piece [0xC3] (.interrupted _ (.piece [0xA9, 10, 32] (.fault "reset" []))))
  exact ⟨h, reading_scanAllSource h⟩

end Acceptance.Feature
