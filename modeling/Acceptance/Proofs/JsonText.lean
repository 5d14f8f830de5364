import Acceptance.Proofs.Markup
import Mathlib.Data.Rat.Defs

/-!
The grammar of JSON texts. As for markup, each judgment says what a text begins with and which text is
left behind it, and there is one way at most to read a text. An object keeps its members in order, also
those of one name. A surrogate that does not belong to a pair stands for no character and is not read.
-/
namespace Acceptance.JsonText
open Xml (isBlank skipBlanks numeral?)

inductive Tree where
  | null
  | bool (b : Bool)
  | number (q : ℚ)
  | string (s : String)
  | array (items : List Tree)
  | object (members : List (String × Tree))

/-! ### Numbers -/

def isNumberChar (c : Char) : Bool := c.isDigit || ['-', '+', '.', 'e', 'E'].contains c

def isDigits (s : List Char) : Bool := !s.isEmpty && s.all Char.isDigit

/-- Digits of which the first is no zero, but for zero itself. -/
def isWhole (s : List Char) : Bool := isDigits s && (s == ['0'] || s.head? != some '0')

def natural (digits : List Char) : Nat := Nat.ofDigitChars 10 digits 0

def digits? (s : List Char) : Option Int := if isDigits s then some (natural s) else none

/-- The exponent that a text is, which is zero if it is left out. -/
def exponent? : List Char → Option Int
  | [] => some 0
  | c :: s =>
    if c = 'e' ∨ c = 'E' then
      match s with
      | '-' :: s => (digits? s).map (- ·)
      | '+' :: s => digits? s
      | s => digits? s
    else none

/-- The digits behind a point, of which there is at least one, and the text behind these. -/
def fraction? : List Char → Option (List Char × List Char)
  | '.' :: s =>
    let digits := s.takeWhile Char.isDigit
    if isDigits digits then some (digits, s.dropWhile Char.isDigit) else none
  | s => some ([], s)

def magnitude? (s : List Char) : Option ℚ :=
  let whole := s.takeWhile Char.isDigit
  if isWhole whole then do
    let (fraction, tail) ← fraction? (s.dropWhile Char.isDigit)
    let exponent ← exponent? tail
    some (natural (whole ++ fraction) * 10 ^ (exponent - fraction.length))
  else none

/-- The number that a text is. -/
def number? : List Char → Option ℚ
  | '-' :: s => (magnitude? s).map (- ·)
  | s => magnitude? s

/-! ### Strings -/

/-- The characters that may stand behind a backslash, and those they mean. -/
def escapes : List (Char × Char) :=
  [('"', '"'), ('\\', '\\'), ('/', '/'), ('b', '\x08'), ('f', '\x0c'), ('n', '\n'), ('r', '\r'),
   ('t', '\t')]

/-- The code unit that four hexadecimal digits are. -/
def unit? (a b c d : Char) : Option Nat := numeral? 16 [a, b, c, d]

def isHigh (n : Nat) : Bool := 0xD800 ≤ n && n < 0xDC00

def isLow (n : Nat) : Bool := 0xDC00 ≤ n && n < 0xE000

/-- What follows a backslash, and the character that is meant. -/
inductive Escape : List Char → Char → List Char → Prop
  | short {c d : Char} {rest : List Char} (h : escapes.lookup c = some d) : Escape (c :: rest) d rest
  | single {a b c d : Char} {n : Nat} {rest : List Char} (h : unit? a b c d = some n)
      (hhigh : isHigh n = false) (hlow : isLow n = false) :
      Escape ('u' :: a :: b :: c :: d :: rest) (Char.ofNat n) rest
  | pair {a b c d a' b' c' d' : Char} {n m : Nat} {rest : List Char} (h : unit? a b c d = some n)
      (h' : unit? a' b' c' d' = some m) (hhigh : isHigh n = true) (hlow : isLow m = true) :
      Escape ('u' :: a :: b :: c :: d :: '\\' :: 'u' :: a' :: b' :: c' :: d' :: rest)
        (Char.ofNat (0x10000 + (n - 0xD800) * 0x400 + (m - 0xDC00))) rest

/-- The characters of a string up to the quote that ends it. -/
inductive StringBody : List Char → List Char → List Char → Prop
  | close {rest : List Char} : StringBody ('"' :: rest) [] rest
  | literal {c : Char} {s text rest : List Char} (hcontrol : 0x20 ≤ c.toNat) (hquote : c ≠ '"')
      (hslash : c ≠ '\\') (more : StringBody s text rest) : StringBody (c :: s) (c :: text) rest
  | escaped {c : Char} {s t text rest : List Char} (first : Escape s c t)
      (more : StringBody t text rest) : StringBody ('\\' :: s) (c :: text) rest

/-! ### Values -/

/-- The name of a member and the colon behind it. -/
inductive Label : List Char → String → List Char → Prop
  | mk {s t u name rest : List Char} (hquote : skipBlanks s = '"' :: t) (hname : StringBody t name u)
      (hcolon : skipBlanks u = ':' :: rest) : Label s (String.ofList name) rest

inductive Part where
  | value | items | members

/-- What a text begins with: a value, the items of an array up to its end or the members of an object up
to its end, of which there is at least one. The items are read as their array, the members as their
object. -/
inductive Reads : Part → List Char → Tree → List Char → Prop
  | null {s rest : List Char} (h : skipBlanks s = "null".toList ++ rest) : Reads .value s .null rest
  | true {s rest : List Char} (h : skipBlanks s = "true".toList ++ rest) :
      Reads .value s (.bool true) rest
  | false {s rest : List Char} (h : skipBlanks s = "false".toList ++ rest) :
      Reads .value s (.bool false) rest
  | number {s digits rest : List Char} {q : ℚ} (h : (skipBlanks s).span isNumberChar = (digits, rest))
      (hq : number? digits = some q) : Reads .value s (.number q) rest
  | string {s t text rest : List Char} (h : skipBlanks s = '"' :: t) (hbody : StringBody t text rest) :
      Reads .value s (.string (String.ofList text)) rest
  | noItems {s t rest : List Char} (h : skipBlanks s = '[' :: t) (hclose : skipBlanks t = ']' :: rest) :
      Reads .value s (.array []) rest
  | array {s t rest : List Char} {items : List Tree} (h : skipBlanks s = '[' :: t)
      (hitems : Reads .items t (.array items) rest) : Reads .value s (.array items) rest
  | noMembers {s t rest : List Char} (h : skipBlanks s = '\x7b' :: t)
      (hclose : skipBlanks t = '\x7d' :: rest) : Reads .value s (.object []) rest
  | object {s t rest : List Char} {members : List (String × Tree)} (h : skipBlanks s = '\x7b' :: t)
      (hmembers : Reads .members t (.object members) rest) : Reads .value s (.object members) rest
  | lastItem {s t rest : List Char} {item : Tree} (hitem : Reads .value s item t)
      (hclose : skipBlanks t = ']' :: rest) : Reads .items s (.array [item]) rest
  | item {s t u rest : List Char} {item : Tree} {more : List Tree} (hitem : Reads .value s item t)
      (hcomma : skipBlanks t = ',' :: u) (hmore : Reads .items u (.array more) rest) :
      Reads .items s (.array (item :: more)) rest
  | lastMember {s t u rest : List Char} {name : String} {value : Tree} (hlabel : Label s name t)
      (hvalue : Reads .value t value u) (hclose : skipBlanks u = '\x7d' :: rest) :
      Reads .members s (.object [(name, value)]) rest
  | member {s t u v rest : List Char} {name : String} {value : Tree} {more : List (String × Tree)}
      (hlabel : Label s name t) (hvalue : Reads .value t value u) (hcomma : skipBlanks u = ',' :: v)
      (hmore : Reads .members v (.object more) rest) :
      Reads .members s (.object ((name, value) :: more)) rest

/-- The text is a value and nothing else. -/
def Means (text : List Char) (t : Tree) : Prop :=
  ∃ rest, Reads .value text t rest ∧ skipBlanks rest = []

/-! ### There is one way to read a text -/

theorem Escape.unique {s rest rest' : List Char} {c c' : Char} (h : Escape s c rest)
    (h' : Escape s c' rest') : c = c' ∧ rest = rest' := by
  cases h with
  | short h =>
    cases h' with
    | short h' => exact ⟨Option.some.inj (h.symm.trans h'), rfl⟩
    | single => cases h
    | pair => cases h
  | single h hhigh =>
    cases h' with
    | short h' => cases h'
    | single h' =>
      obtain rfl := Option.some.inj (h.symm.trans h')
      exact ⟨rfl, rfl⟩
    | pair h' _ hhigh' =>
      obtain rfl := Option.some.inj (h.symm.trans h')
      exact absurd (hhigh.symm.trans hhigh') Bool.false_ne_true
  | pair hn hm hhigh =>
    cases h' with
    | short h' => cases h'
    | single hn' hhigh' =>
      obtain rfl := Option.some.inj (hn.symm.trans hn')
      exact absurd (hhigh'.symm.trans hhigh) Bool.false_ne_true
    | pair hn' hm' =>
      obtain rfl := Option.some.inj (hn.symm.trans hn')
      obtain rfl := Option.some.inj (hm.symm.trans hm')
      exact ⟨rfl, rfl⟩

theorem StringBody.unique {s text text' rest rest' : List Char} (h : StringBody s text rest)
    (h' : StringBody s text' rest') : text = text' ∧ rest = rest' := by
  induction h generalizing text' with
  | close =>
    cases h' with
    | close => exact ⟨rfl, rfl⟩
    | literal _ hquote => exact absurd rfl hquote
  | literal _ hquote hslash _ ih =>
    cases h' with
    | close => exact absurd rfl hquote
    | literal _ _ _ more' =>
      obtain ⟨rfl, hrest⟩ := ih more'
      exact ⟨rfl, hrest⟩
    | escaped => exact absurd rfl hslash
  | escaped first _ ih =>
    cases h' with
    | literal _ _ hslash => exact absurd rfl hslash
    | escaped first' more' =>
      obtain ⟨rfl, rfl⟩ := first.unique first'
      obtain ⟨rfl, hrest⟩ := ih more'
      exact ⟨rfl, hrest⟩

theorem Label.unique {s rest rest' : List Char} {name name' : String} (h : Label s name rest)
    (h' : Label s name' rest') : name = name' ∧ rest = rest' := by
  obtain ⟨hquote, hname, hcolon⟩ := h
  obtain ⟨hquote', hname', hcolon'⟩ := h'
  obtain ⟨-, rfl⟩ := List.cons.inj (hquote.symm.trans hquote')
  obtain ⟨rfl, rfl⟩ := hname.unique hname'
  exact ⟨rfl, (List.cons.inj (hcolon.symm.trans hcolon')).2⟩

/-- The character that a value begins with; for numbers zero stands for all digits and the minus. -/
def Tree.mark : Tree → Char
  | null => 'n'
  | bool true => 't'
  | bool false => 'f'
  | number _ => '0'
  | string _ => '"'
  | array _ => '['
  | object _ => '\x7b'

def markOf (c : Char) : Char := if c.isDigit ∨ c = '-' then '0' else c

/-- A number begins with a digit or a minus. -/
theorem mark_of_number? {digits : List Char} {q : ℚ} (h : number? digits = some q) :
    digits.head?.map markOf = some '0' := by
  cases digits with
  | nil => cases h
  | cons c more =>
    by_cases hminus : c = '-'
    · subst hminus
      rfl
    · have hwhole : isWhole ((c :: more).takeWhile Char.isDigit) = true := by
        rw [number?] at h
        · by_contra hwhole
          simp only [magnitude?, hwhole] at h
          cases h
        · rintro s hs
          exact hminus (List.cons.inj hs).1
      have hdigit : c.isDigit = true := by
        rw [List.takeWhile_cons] at hwhole
        split at hwhole
        next hc => exact hc
        next => cases hwhole
      simp [markOf, hdigit]

theorem Reads.mark {s rest : List Char} {t : Tree} (h : Reads .value s t rest) :
    (skipBlanks s).head?.map markOf = some t.mark := by
  cases h with
  | null h => rw [h]; rfl
  | true h => rw [h]; rfl
  | false h => rw [h]; rfl
  | @number _ digits _ _ h hq =>
    have hmark := mark_of_number? hq
    have happend : skipBlanks s = digits ++ rest := by
      rw [List.span_eq_takeWhile_dropWhile, Prod.mk.injEq] at h
      rw [← h.1, ← h.2, List.takeWhile_append_dropWhile]
    cases digits with
    | nil => cases hmark
    | cons c more => rw [happend]; exact hmark
  | string h => rw [h]; rfl
  | noItems h => rw [h]; rfl
  | array h => rw [h]; rfl
  | noMembers h => rw [h]; rfl
  | object h => rw [h]; rfl

theorem Label.starts {s rest : List Char} {name : String} (h : Label s name rest) :
    ∃ t : Tree, (skipBlanks s).head?.map markOf = some t.mark := by
  obtain ⟨hquote, -, -⟩ := h
  exact ⟨.string "", by rw [hquote]; rfl⟩

/-- The items of an array begin with a value, and the members of an object with a name. -/
theorem Reads.starts {p : Part} {s rest : List Char} {v : Tree} (h : Reads p s v rest) :
    ∃ t : Tree, (skipBlanks s).head?.map markOf = some t.mark := by
  cases p with
  | value => exact ⟨v, h.mark⟩
  | items =>
    cases h with
    | lastItem hitem => exact ⟨_, hitem.mark⟩
    | item hitem => exact ⟨_, hitem.mark⟩
  | members =>
    cases h with
    | lastMember hlabel => exact hlabel.starts
    | member hlabel => exact hlabel.starts

/-- What is read does not begin with the end of an array or of an object. -/
theorem Reads.ne_close {p : Part} {c : Char} {s t rest : List Char} {v : Tree} (h : Reads p s v rest)
    (hclose : skipBlanks s = c :: t) : c ≠ ']' ∧ c ≠ '\x7d' := by
  obtain ⟨t, ht⟩ := h.starts
  rw [hclose] at ht
  constructor <;> rintro rfl <;> (fun_cases Tree.mark t) <;> cases ht

/-- Values that are read from one text begin with the same character. -/
theorem Reads.mark_eq {s rest rest' : List Char} {t t' : Tree} (h : Reads .value s t rest)
    (h' : Reads .value s t' rest') : t.mark = t'.mark :=
  Option.some.inj (h.mark.symm.trans h'.mark)

/-- The induction is on the first reading. The mark of what is read leaves few rules to the second one. -/
theorem Reads.unique {p : Part} {s rest rest' : List Char} {t t' : Tree} (h : Reads p s t rest)
    (h' : Reads p s t' rest') : t = t' ∧ rest = rest' := by
  induction h generalizing t' rest' with
  | null h =>
    have hmark := (Reads.null h).mark_eq h'
    cases h' with
    | null h' => exact ⟨rfl, List.append_cancel_left (h.symm.trans h')⟩
    | _ => cases hmark
  | true h =>
    have hmark := (Reads.true h).mark_eq h'
    cases h' with
    | true h' => exact ⟨rfl, List.append_cancel_left (h.symm.trans h')⟩
    | _ => cases hmark
  | false h =>
    have hmark := (Reads.false h).mark_eq h'
    cases h' with
    | false h' => exact ⟨rfl, List.append_cancel_left (h.symm.trans h')⟩
    | _ => cases hmark
  | number h hq =>
    have hmark := (Reads.number h hq).mark_eq h'
    cases h' with
    | number h' hq' =>
      obtain ⟨rfl, rfl⟩ := Prod.mk.inj (h.symm.trans h')
      obtain rfl := Option.some.inj (hq.symm.trans hq')
      exact ⟨rfl, rfl⟩
    | _ => cases hmark
  | string h hbody =>
    have hmark := (Reads.string h hbody).mark_eq h'
    cases h' with
    | string h' hbody' =>
      obtain ⟨-, rfl⟩ := List.cons.inj (h.symm.trans h')
      obtain ⟨rfl, rfl⟩ := hbody.unique hbody'
      exact ⟨rfl, rfl⟩
    | _ => cases hmark
  | noItems h hclose =>
    have hmark := (Reads.noItems h hclose).mark_eq h'
    cases h' with
    | noItems h' hclose' =>
      obtain ⟨-, rfl⟩ := List.cons.inj (h.symm.trans h')
      exact ⟨rfl, (List.cons.inj (hclose.symm.trans hclose')).2⟩
    | array h' hitems' =>
      obtain ⟨-, rfl⟩ := List.cons.inj (h.symm.trans h')
      exact absurd rfl (hitems'.ne_close hclose).1
    | _ => cases hmark
  | array h hitems ih =>
    have hmark := (Reads.array h hitems).mark_eq h'
    cases h' with
    | noItems h' hclose' =>
      obtain ⟨-, rfl⟩ := List.cons.inj (h.symm.trans h')
      exact absurd rfl (hitems.ne_close hclose').1
    | array h' hitems' =>
      obtain ⟨-, rfl⟩ := List.cons.inj (h.symm.trans h')
      exact ih hitems'
    | _ => cases hmark
  | noMembers h hclose =>
    have hmark := (Reads.noMembers h hclose).mark_eq h'
    cases h' with
    | noMembers h' hclose' =>
      obtain ⟨-, rfl⟩ := List.cons.inj (h.symm.trans h')
      exact ⟨rfl, (List.cons.inj (hclose.symm.trans hclose')).2⟩
    | object h' hmembers' =>
      obtain ⟨-, rfl⟩ := List.cons.inj (h.symm.trans h')
      exact absurd rfl (hmembers'.ne_close hclose).2
    | _ => cases hmark
  | object h hmembers ih =>
    have hmark := (Reads.object h hmembers).mark_eq h'
    cases h' with
    | noMembers h' hclose' =>
      obtain ⟨-, rfl⟩ := List.cons.inj (h.symm.trans h')
      exact absurd rfl (hmembers.ne_close hclose').2
    | object h' hmembers' =>
      obtain ⟨-, rfl⟩ := List.cons.inj (h.symm.trans h')
      exact ih hmembers'
    | _ => cases hmark
  | lastItem hitem hclose ih =>
    cases h' with
    | lastItem hitem' hclose' =>
      obtain ⟨rfl, rfl⟩ := ih hitem'
      exact ⟨rfl, (List.cons.inj (hclose.symm.trans hclose')).2⟩
    | item hitem' hcomma' =>
      obtain ⟨-, rfl⟩ := ih hitem'
      exact absurd (List.cons.inj (hclose.symm.trans hcomma')).1 (by decide)
  | item hitem hcomma hmore ih ihmore =>
    cases h' with
    | lastItem hitem' hclose' =>
      obtain ⟨-, rfl⟩ := ih hitem'
      exact absurd (List.cons.inj (hcomma.symm.trans hclose')).1 (by decide)
    | item hitem' hcomma' hmore' =>
      obtain ⟨rfl, rfl⟩ := ih hitem'
      obtain ⟨-, rfl⟩ := List.cons.inj (hcomma.symm.trans hcomma')
      obtain ⟨hsame, rfl⟩ := ihmore hmore'
      obtain rfl := Tree.array.inj hsame
      exact ⟨rfl, rfl⟩
  | lastMember hlabel hvalue hclose ih =>
    cases h' with
    | lastMember hlabel' hvalue' hclose' =>
      obtain ⟨rfl, rfl⟩ := hlabel.unique hlabel'
      obtain ⟨rfl, rfl⟩ := ih hvalue'
      exact ⟨rfl, (List.cons.inj (hclose.symm.trans hclose')).2⟩
    | member hlabel' hvalue' hcomma' =>
      obtain ⟨rfl, rfl⟩ := hlabel.unique hlabel'
      obtain ⟨-, rfl⟩ := ih hvalue'
      exact absurd (List.cons.inj (hclose.symm.trans hcomma')).1 (by decide)
  | member hlabel hvalue hcomma hmore ih ihmore =>
    cases h' with
    | lastMember hlabel' hvalue' hclose' =>
      obtain ⟨rfl, rfl⟩ := hlabel.unique hlabel'
      obtain ⟨-, rfl⟩ := ih hvalue'
      exact absurd (List.cons.inj (hcomma.symm.trans hclose')).1 (by decide)
    | member hlabel' hvalue' hcomma' hmore' =>
      obtain ⟨rfl, rfl⟩ := hlabel.unique hlabel'
      obtain ⟨rfl, rfl⟩ := ih hvalue'
      obtain ⟨-, rfl⟩ := List.cons.inj (hcomma.symm.trans hcomma')
      obtain ⟨hsame, rfl⟩ := ihmore hmore'
      obtain rfl := Tree.object.inj hsame
      exact ⟨rfl, rfl⟩

/-- A text means one value at most. -/
theorem Means.unique {text : List Char} {t t' : Tree} (h : Means text t) (h' : Means text t') :
    t = t' := by
  obtain ⟨rest, h, -⟩ := h
  obtain ⟨rest', h', -⟩ := h'
  exact (h.unique h').1

end Acceptance.JsonText
