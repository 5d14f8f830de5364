import Acceptance.Text.Lines
import Acceptance.Text.Ranges
import Mathlib.Data.List.Infix

/-!
The grammar of XML 1.0, without document types. Each judgment says what a text begins with and which
text is left behind it; a document can be read in one way at most. White space outside of tags is not a
part of what is read, while the white space of attribute values is.
-/
namespace Acceptance.Xml
open Text

/-! ### Characters -/

def charRanges : Ranges :=
  [(0x9, 0xA), (0xD, 0xD), (0x20, 0xD7FF), (0xE000, 0xFFFD), (0x10000, 0x10FFFF)]

def isChar (c : Char) : Bool := charRanges.has c

def isBlank (c : Char) : Bool := c == ' ' || c == '\t' || c == '\n' || c == '\r'

def nameStartRanges : Ranges :=
  [(0x3A, 0x3A), (0x41, 0x5A), (0x5F, 0x5F), (0x61, 0x7A), (0xC0, 0xD6), (0xD8, 0xF6), (0xF8, 0x2FF),
   (0x370, 0x37D), (0x37F, 0x1FFF), (0x200C, 0x200D), (0x2070, 0x218F), (0x2C00, 0x2FEF),
   (0x3001, 0xD7FF), (0xF900, 0xFDCF), (0xFDF0, 0xFFFD), (0x10000, 0xEFFFF)]

/-- The further characters of names. -/
def nameMoreRanges : Ranges :=
  [(0x2D, 0x2E), (0x30, 0x39), (0xB7, 0xB7), (0x300, 0x36F), (0x203F, 0x2040)]

def isNameStart (c : Char) : Bool := nameStartRanges.has c

def isNameChar (c : Char) : Bool := isNameStart c || nameMoreRanges.has c

def isName : List Char → Bool
  | [] => false
  | c :: more => isNameStart c && more.all isNameChar

def skipBlanks (s : List Char) : List Char := s.dropWhile isBlank

/-- The characters of names that a text begins with are a name. -/
structure Name (s name rest : List Char) : Prop where
  span : s.span isNameChar = (name, rest)
  valid : isName name = true

/-! ### References -/

def entities : List (List Char × Char) :=
  [("amp".toList, '&'), ("lt".toList, '<'), ("gt".toList, '>'), ("quot".toList, '"'),
   ("apos".toList, '\'')]

def digit? (base : Nat) (c : Char) : Option Nat :=
  ("0123456789abcdef".toList.take base).findIdx? (· == c.toLower)

def numeral? (base : Nat) : List Char → Option Nat
  | [] => none
  | digits => digits.foldlM (fun n c => (digit? base c).map (base * n + ·)) 0

def charOf? (n : Nat) : Option Char := if charRanges.hasCode n then some (Char.ofNat n) else none

/-- What stands between the ampersand and the semicolon of a reference means a character. -/
def meaning? : List Char → Option Char
  | '#' :: 'x' :: digits => (numeral? 16 digits).bind charOf?
  | '#' :: digits => (numeral? 10 digits).bind charOf?
  | name => entities.lookup name

def Reference (s : List Char) (c : Char) (rest : List Char) : Prop :=
  ∃ body, s = '&' :: (body ++ ';' :: rest) ∧ ';' ∉ body ∧ meaning? body = some c

/-! ### Attributes -/

/-- A value up to the quote that ends it, its references replaced by the characters they mean. -/
inductive AttributeValue (quote : Char) : List Char → List Char → List Char → Prop
  | close {rest : List Char} : AttributeValue quote (quote :: rest) [] rest
  | literal {c : Char} {s value rest : List Char} (hchar : isChar c = true) (hquote : c ≠ quote)
      (hless : c ≠ '<') (hand : c ≠ '&') (more : AttributeValue quote s value rest) :
      AttributeValue quote (c :: s) (c :: value) rest
  | reference {c : Char} {s t value rest : List Char} (first : Reference s c t)
      (more : AttributeValue quote t value rest) : AttributeValue quote s (c :: value) rest

abbrev Attribute := List Char × List Char

/-- Attributes up to the character that ends the tag, each after white space. -/
inductive Attributes : List Char → List Attribute → List Char → Prop
  | close {c : Char} {s rest : List Char} (hclose : skipBlanks s = c :: rest)
      (hc : c = '>' ∨ c = '/' ∨ c = '?') : Attributes s [] (c :: rest)
  | next {b quote : Char} {s name t u v value w rest : List Char} {more : List Attribute}
      (hblank : isBlank b = true) (hname : Name (skipBlanks s) name t)
      (hequals : skipBlanks t = '=' :: u) (hquote : skipBlanks u = quote :: v)
      (hquotes : quote = '"' ∨ quote = '\'') (hvalue : AttributeValue quote v value w)
      (hmore : Attributes w more rest) (hnew : name ∉ more.map Prod.fst) :
      Attributes (b :: s) ((name, value) :: more) rest

/-! ### Content -/

/-- Markup that runs up to the first occurrence of its end. -/
inductive Enclosure where
  | comment | data | instruction

namespace Enclosure

/-- The text that begins the enclosure, behind a less-than sign. -/
def opening : Enclosure → List Char
  | comment => ['!', '-', '-']
  | data => ['!', '[', 'C', 'D', 'A', 'T', 'A', '[']
  | instruction => ['?']

def closing : Enclosure → List Char
  | comment => ['-', '-', '>']
  | data => [']', ']', '>']
  | instruction => ['?', '>']

def Allows (body : List Char) : Enclosure → Prop
  | comment => ¬ ['-', '-'] <:+: body ++ ['-']
  | data => True
  | instruction => ∃ target rest, Name body target rest ∧ target.map Char.toLower ≠ "xml".toList ∧
      ∀ c ∈ rest.head?, isBlank c = true

end Enclosure

inductive Node where
  | element (name : List Char) (attributes : List Attribute) (children : List Node)
  | char (c : Char)
  | enclosed (kind : Enclosure) (body : List Char)

/-- The text begins with the body, behind which the first occurrence of the closing text stands. -/
def Before (closing s body rest : List Char) : Prop :=
  s = body ++ (closing ++ rest) ∧
    ∀ other rest', s = other ++ (closing ++ rest') → body.length ≤ other.length

/-- A piece of content that is not an element. -/
inductive Piece : List Char → List Node → List Char → Prop
  | blank {c : Char} {rest : List Char} (hblank : isBlank c = true) : Piece (c :: rest) [] rest
  | literal {c : Char} {rest : List Char} (hchar : isChar c = true) (hblank : isBlank c = false)
      (hless : c ≠ '<') (hand : c ≠ '&') (hclose : ¬ [']', ']', '>'] <+: c :: rest) :
      Piece (c :: rest) [.char c] rest
  | reference {c : Char} {s rest : List Char} (h : Reference s c rest) : Piece s [.char c] rest
  | enclosed {kind : Enclosure} {s t body rest : List Char} (hopen : s = kind.opening ++ t)
      (hbody : Before kind.closing t body rest) (hchars : body.all isChar = true)
      (hallows : kind.Allows body) : Piece ('<' :: s) [.enclosed kind body] rest

/-- Content up to the end of the text or to the next end tag that has no start tag before it. -/
inductive Content : List Char → List Node → List Char → Prop
  | done : Content [] [] []
  | close {s : List Char} : Content ('<' :: '/' :: s) [] ('<' :: '/' :: s)
  | piece {s t rest : List Char} {first more : List Node} (hpiece : Piece s first t)
      (hmore : Content t more rest) : Content s (first ++ more) rest
  | empty {s name t u rest : List Char} {attributes : List Attribute} {more : List Node}
      (hname : Name s name t) (hattributes : Attributes t attributes ('/' :: '>' :: u))
      (hmore : Content u more rest) : Content ('<' :: s) (.element name attributes [] :: more) rest
  | element {s name t u v w x rest : List Char} {attributes : List Attribute}
      {children more : List Node} (hname : Name s name t)
      (hattributes : Attributes t attributes ('>' :: u))
      (hchildren : Content u children ('<' :: '/' :: v)) (hend : Name v name w)
      (hclose : skipBlanks w = '>' :: x) (hmore : Content x more rest) :
      Content ('<' :: s) (.element name attributes children :: more) rest

/-- What a document consists of: the attributes of its declaration and the nodes of the outermost
level. -/
structure Document where
  declaration : List Attribute
  nodes : List Node

namespace Document

/-- The declaration has a version, then possibly an encoding and whether the document stands alone. -/
def IsDeclared (d : Document) : Prop :=
  ∃ optional, List.Sublist optional ["encoding".toList, "standalone".toList] ∧
    d.declaration.map Prod.fst = "version".toList :: optional

/-- Besides the one element of the outermost level there are only comments and instructions. -/
def IsRooted (d : Document) : Prop :=
  ∃ before name attributes children after,
    d.nodes = before ++ .element name attributes children :: after ∧
      ∀ n ∈ before ++ after, ∃ body, n = .enclosed .comment body ∨ n = .enclosed .instruction body

/-- The text is that of the document. -/
structure Reads (text : List Char) (d : Document) : Prop where
  read : ∃ s t, text = "<?xml".toList ++ s ∧ Attributes s d.declaration ('?' :: '>' :: t) ∧
    Content t d.nodes []
  declared : d.IsDeclared
  rooted : d.IsRooted

end Document

/-! ### There is one way to read a text -/

theorem Name.unique {s name name' rest rest' : List Char} (h : Name s name rest)
    (h' : Name s name' rest') : name = name' ∧ rest = rest' := by
  have hpair : (name, rest) = (name', rest') := h.span.symm.trans h'.span
  exact Prod.mk.inj hpair

theorem Name.start {c : Char} {s name rest : List Char} (h : Name (c :: s) name rest) :
    isNameStart c = true := by
  have hname : (c :: s).takeWhile isNameChar = name := by
    have hspan := h.span
    rw [List.span_eq_takeWhile_dropWhile] at hspan
    exact (Prod.mk.inj hspan).1
  have hvalid := h.valid
  rw [← hname, List.takeWhile_cons] at hvalid
  split at hvalid
  · rw [isName, Bool.and_eq_true] at hvalid
    exact hvalid.1
  · cases hvalid

theorem not_name_nil {name rest : List Char} (h : Name [] name rest) : False := by
  have hname : name = [] := (congrArg Prod.fst h.span).symm
  have hvalid := h.valid
  rw [hname] at hvalid
  cases hvalid

theorem Reference.head {c d : Char} {s rest : List Char} (h : Reference (c :: s) d rest) :
    c = '&' := by
  obtain ⟨body, hs, -⟩ := h
  exact (List.cons.inj hs).1

theorem not_reference_nil {c : Char} {rest : List Char} (h : Reference [] c rest) : False := by
  obtain ⟨body, hs, -⟩ := h
  cases hs

theorem Reference.unique {c c' : Char} {s rest rest' : List Char} (h : Reference s c rest)
    (h' : Reference s c' rest') : c = c' ∧ rest = rest' := by
  obtain ⟨body, rfl, hbody, hmeaning⟩ := h
  obtain ⟨body', hs, hbody', hmeaning'⟩ := h'
  obtain ⟨rfl, hrest⟩ := append_newline_unique hbody hbody' (List.cons.inj hs).2
  exact ⟨Option.some.inj (hmeaning.symm.trans hmeaning'), hrest⟩

theorem AttributeValue.unique {quote : Char} (hquote : quote ≠ '&')
    {s value value' rest rest' : List Char} (h : AttributeValue quote s value rest)
    (h' : AttributeValue quote s value' rest') : value = value' ∧ rest = rest' := by
  induction h generalizing value' with
  | close =>
    cases h' with
    | close => exact ⟨rfl, rfl⟩
    | literal _ hne => exact absurd rfl hne
    | reference first => exact absurd first.head hquote
  | literal _ hne _ hand _ ih =>
    cases h' with
    | close => exact absurd rfl hne
    | literal _ _ _ _ more' =>
      obtain ⟨rfl, hrest⟩ := ih more'
      exact ⟨rfl, hrest⟩
    | reference first => exact absurd first.head hand
  | reference first _ ih =>
    cases h' with
    | close => exact absurd first.head hquote
    | literal _ _ _ hand => exact absurd first.head hand
    | reference first' more' =>
      obtain ⟨rfl, rfl⟩ := first.unique first'
      obtain ⟨rfl, hrest⟩ := ih more'
      exact ⟨rfl, hrest⟩

theorem isBlank_close {c : Char} (hc : c = '>' ∨ c = '/' ∨ c = '?') :
    isBlank c = false ∧ isNameStart c = false := by
  rcases hc with rfl | rfl | rfl <;> decide

theorem skipBlanks_cons {c : Char} (hc : isBlank c = true) (s : List Char) :
    skipBlanks (c :: s) = skipBlanks s := List.dropWhile_cons_of_pos hc

/-- Where the tag ends, no attribute begins. -/
theorem Name.not_close {c : Char} {s name rest t : List Char} (hclose : skipBlanks s = c :: t)
    (hc : c = '>' ∨ c = '/' ∨ c = '?') (h : Name (skipBlanks s) name rest) : False := by
  rw [hclose] at h
  exact Bool.false_ne_true ((isBlank_close hc).2.symm.trans h.start)

theorem Attributes.unique {s rest rest' : List Char} {attributes attributes' : List Attribute}
    (h : Attributes s attributes rest) (h' : Attributes s attributes' rest') :
    attributes = attributes' ∧ rest = rest' := by
  induction h generalizing attributes' with
  | close hclose hc =>
    cases h' with
    | close hclose' => exact ⟨rfl, hclose.symm.trans hclose'⟩
    | next hblank hname =>
      rw [skipBlanks_cons hblank] at hclose
      exact (hname.not_close hclose hc).elim
  | next hblank hname hequals hquote hquotes hvalue hmore hnew ih =>
    cases h' with
    | close hclose' hc' =>
      rw [skipBlanks_cons hblank] at hclose'
      exact (hname.not_close hclose' hc').elim
    | next hblank' hname' hequals' hquote' hquotes' hvalue' hmore' hnew' =>
      obtain ⟨rfl, rfl⟩ := hname.unique hname'
      obtain ⟨-, rfl⟩ := List.cons.inj (hequals.symm.trans hequals')
      obtain ⟨rfl, rfl⟩ := List.cons.inj (hquote.symm.trans hquote')
      have hne : ∀ q : Char, q = '"' ∨ q = '\'' → q ≠ '&' := by
        rintro q (rfl | rfl) <;> decide
      obtain ⟨rfl, rfl⟩ := hvalue.unique (hne _ hquotes) hvalue'
      obtain ⟨rfl, hrest⟩ := ih hmore'
      exact ⟨rfl, hrest⟩

theorem Before.unique {closing s body body' rest rest' : List Char} (h : Before closing s body rest)
    (h' : Before closing s body' rest') : body = body' ∧ rest = rest' := by
  have hlength : body.length = body'.length :=
    Nat.le_antisymm (h.2 body' rest' h'.1) (h'.2 body rest h.1)
  obtain ⟨rfl, htail⟩ := List.append_inj (h.1.symm.trans h'.1) hlength
  exact ⟨rfl, List.append_cancel_left htail⟩

theorem Enclosure.opening_unique {kind kind' : Enclosure} {t t' : List Char}
    (h : kind.opening ++ t = kind'.opening ++ t') : kind = kind' ∧ t = t' := by
  cases kind <;> cases kind' <;> simp_all [Enclosure.opening]

theorem Enclosure.opening_head {kind : Enclosure} {c : Char} {s t : List Char}
    (h : c :: s = kind.opening ++ t) : c = '!' ∨ c = '?' := by
  cases kind <;> simp_all [Enclosure.opening]

theorem Piece.tag {c : Char} {s rest : List Char} {nodes : List Node}
    (h : Piece ('<' :: c :: s) nodes rest) : c = '!' ∨ c = '?' := by
  cases h with
  | blank hblank => exact absurd hblank (by decide)
  | literal _ _ hless => exact absurd rfl hless
  | reference h => exact absurd h.head (by decide)
  | enclosed hopen => exact Enclosure.opening_head hopen

theorem Piece.unique {s rest rest' : List Char} {nodes nodes' : List Node}
    (h : Piece s nodes rest) (h' : Piece s nodes' rest') : nodes = nodes' ∧ rest = rest' := by
  cases h with
  | blank hblank =>
    cases h' with
    | blank => exact ⟨rfl, rfl⟩
    | literal _ hblank' => exact absurd (hblank.symm.trans hblank') (by decide)
    | reference h' => obtain rfl := h'.head; exact absurd hblank (by decide)
    | enclosed => exact absurd hblank (by decide)
  | literal _ hblank hless hand =>
    cases h' with
    | blank hblank' => exact absurd (hblank'.symm.trans hblank) (by decide)
    | literal => exact ⟨rfl, rfl⟩
    | reference h' => exact absurd h'.head hand
    | enclosed => exact absurd rfl hless
  | reference h =>
    cases h' with
    | blank hblank' => obtain rfl := h.head; exact absurd hblank' (by decide)
    | literal _ _ _ hand' => exact absurd h.head hand'
    | reference h' =>
      obtain ⟨rfl, hrest⟩ := h.unique h'
      exact ⟨rfl, hrest⟩
    | enclosed => exact absurd h.head (by decide)
  | enclosed hopen hbody =>
    cases h' with
    | blank hblank' => exact absurd hblank' (by decide)
    | literal _ _ hless' => exact absurd rfl hless'
    | reference h' => exact absurd h'.head (by decide)
    | enclosed hopen' hbody' =>
      obtain ⟨rfl, rfl⟩ := Enclosure.opening_unique (hopen.symm.trans hopen')
      obtain ⟨rfl, hrest⟩ := hbody.unique hbody'
      exact ⟨rfl, hrest⟩

theorem not_piece_nil {nodes : List Node} {rest : List Char} (h : Piece [] nodes rest) : False := by
  cases h with
  | reference h => exact not_reference_nil h

/-- Where a name stands behind the less-than sign, an element begins. -/
theorem Name.not_piece {s name t rest : List Char} {nodes : List Node} (hname : Name s name t)
    (h : Piece ('<' :: s) nodes rest) : False := by
  cases s with
  | nil => exact not_name_nil hname
  | cons c s =>
    have hstart := hname.start
    rcases h.tag with rfl | rfl <;> exact absurd hstart (by decide)

theorem Name.not_slash {s name t : List Char} (hname : Name ('/' :: s) name t) : False :=
  absurd hname.start (by decide)

/-- The induction is on the first reading; its next rule leaves no other rule to the second one. -/
theorem Content.unique {s rest rest' : List Char} {nodes nodes' : List Node}
    (h : Content s nodes rest) (h' : Content s nodes' rest') : nodes = nodes' ∧ rest = rest' := by
  induction h generalizing nodes' rest' with
  | done =>
    cases h' with
    | done => exact ⟨rfl, rfl⟩
    | piece hpiece' => exact (not_piece_nil hpiece').elim
  | close =>
    cases h' with
    | close => exact ⟨rfl, rfl⟩
    | piece hpiece' => exact absurd hpiece'.tag (by decide)
    | empty hname' => exact hname'.not_slash.elim
    | element hname' => exact hname'.not_slash.elim
  | piece hpiece hmore ih =>
    cases h' with
    | done => exact (not_piece_nil hpiece).elim
    | close => exact absurd hpiece.tag (by decide)
    | piece hpiece' hmore' =>
      obtain ⟨rfl, rfl⟩ := hpiece.unique hpiece'
      obtain ⟨rfl, hrest⟩ := ih hmore'
      exact ⟨rfl, hrest⟩
    | empty hname' => exact (hname'.not_piece hpiece).elim
    | element hname' => exact (hname'.not_piece hpiece).elim
  | empty hname hattributes hmore ih =>
    cases h' with
    | close => exact hname.not_slash.elim
    | piece hpiece' => exact (hname.not_piece hpiece').elim
    | empty hname' hattributes' hmore' =>
      obtain ⟨rfl, rfl⟩ := hname.unique hname'
      obtain ⟨rfl, htail⟩ := hattributes.unique hattributes'
      obtain ⟨-, htail⟩ := List.cons.inj htail
      obtain ⟨-, rfl⟩ := List.cons.inj htail
      obtain ⟨rfl, hrest⟩ := ih hmore'
      exact ⟨rfl, hrest⟩
    | element hname' hattributes' =>
      -- the one tag ends with a slash, the other one does not
      obtain ⟨-, rfl⟩ := hname.unique hname'
      have htail := (hattributes.unique hattributes').2
      exact absurd (List.cons.inj htail).1 (by decide)
  | element hname hattributes hchildren hend hclose hmore ihchildren ihmore =>
    cases h' with
    | close => exact hname.not_slash.elim
    | piece hpiece' => exact (hname.not_piece hpiece').elim
    | empty hname' hattributes' =>
      obtain ⟨-, rfl⟩ := hname.unique hname'
      have htail := (hattributes.unique hattributes').2
      exact absurd (List.cons.inj htail).1 (by decide)
    | element hname' hattributes' hchildren' hend' hclose' hmore' =>
      obtain ⟨rfl, rfl⟩ := hname.unique hname'
      obtain ⟨rfl, htail⟩ := hattributes.unique hattributes'
      obtain ⟨-, rfl⟩ := List.cons.inj htail
      -- both have the same children, so the same end tag stands behind them
      obtain ⟨rfl, htail⟩ := ihchildren hchildren'
      obtain ⟨-, htail⟩ := List.cons.inj htail
      obtain ⟨-, rfl⟩ := List.cons.inj htail
      obtain ⟨-, rfl⟩ := hend.unique hend'
      obtain ⟨-, rfl⟩ := List.cons.inj (hclose.symm.trans hclose')
      obtain ⟨rfl, hrest⟩ := ihmore hmore'
      exact ⟨rfl, hrest⟩

/-- A text is that of at most one document. -/
theorem Document.Reads.unique {text : List Char} {d d' : Document} (h : d.Reads text)
    (h' : d'.Reads text) : d = d' := by
  obtain ⟨s, t, rfl, hdeclaration, hcontent⟩ := h.read
  obtain ⟨s', t', hs, hdeclaration', hcontent'⟩ := h'.read
  obtain rfl := List.append_cancel_left hs
  obtain ⟨hsame, htail⟩ := hdeclaration.unique hdeclaration'
  obtain ⟨-, htail⟩ := List.cons.inj htail
  obtain ⟨-, rfl⟩ := List.cons.inj htail
  obtain ⟨hnodes, -⟩ := hcontent.unique hcontent'
  cases d
  cases d'
  exact congrArg₂ Document.mk hsame hnodes

end Acceptance.Xml
