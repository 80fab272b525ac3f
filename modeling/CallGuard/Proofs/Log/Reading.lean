import Mathlib.Data.List.Forall2
import CallGuard.Proofs.Log.Escapes
import CallGuard.Proofs.Number.Numeral

/-!
# Reading JSON back

A value of data is written as a JSON text that says one document, and this document holds the value:
its truth values and whole numbers, the code points of its texts, and its parts in order. The text
consists of printable ASCII characters. What follows it does not matter, so long as it stops it: a
comma, a closing sign or the end. So the texts of parts can be put together, and what they say is
put together as well.
-/

namespace CallGuard.Log

open CallGuard.Number CallGuard.Text

/-! ### What a text says -/

/-- What may follow a document. -/
def Stops (rest : List Char) : Prop :=
  ∀ c, rest.head? = some c → c = ',' ∨ c = ']' ∨ c = '\x7d'

/-- A text that starts a document: it is not empty and does not start like what is around one. -/
def Starts (cs : List Char) : Prop :=
  ∃ c rest, cs = c :: rest ∧ isJsonBlank c = false ∧ c ≠ ']' ∧ c ≠ '\x7d'

/-- A reader reads a text as something, whatever stops the text. -/
structure Part {α : Type} (read : List Char → Option (α × List Char)) (cs : List Char) (a : α) :
    Prop where
  starts : Starts cs
  reads : ∀ rest, Stops rest → read (cs ++ rest) = some (a, rest)

/--
A reader that goes down a number of levels reads a text of printable characters as something. As
many levels as the text is long are enough.
-/
structure Reads {α : Type} (read : ℕ → List Char → Option (α × List Char)) (cs : List Char)
    (a : α) : Prop where
  starts : Starts cs
  printable : ∀ c ∈ cs, IsPrintable c
  reads : ∀ levels rest, cs.length ≤ levels → Stops rest →
    read levels (cs ++ rest) = some (a, rest)

/-- A text says a document. -/
abbrev Says (cs : List Char) (document : Document) : Prop := Reads readDocument cs document

variable {α : Type} {cs rest : List Char} {document : Document} {levels : ℕ}

theorem Reads.part {read : ℕ → List Char → Option (α × List Char)} {a : α} (h : Reads read cs a)
    (hlevels : cs.length ≤ levels) : Part (read levels) cs a :=
  ⟨h.starts, fun rest => h.reads levels rest hlevels⟩

theorem stops_nil : Stops [] := nofun

theorem stops_cons {c : Char} (h : c = ',' ∨ c = ']' ∨ c = '\x7d') (rest : List Char) :
    Stops (c :: rest) := by
  intro d hd
  cases hd
  exact h

theorem Starts.skipBlanks_append (h : Starts cs) (rest : List Char) :
    skipBlanks (cs ++ rest) = cs ++ rest := by
  obtain ⟨c, tail, rfl, hblank, _⟩ := h
  exact List.dropWhile_cons_of_neg (by simp [hblank])

/-- A text that says a document says nothing else. -/
theorem Says.ofText?_eq {s : String} (h : Says s.toList document) :
    Document.ofText? s = some document := by
  have hskip := h.starts.skipBlanks_append []
  have hreads := h.reads (s.length + 1) [] (Nat.le_succ _) stops_nil
  rw [List.append_nil] at hskip hreads
  rw [Document.ofText?, hskip, hreads]
  rfl

/-! ### Texts -/

theorem says_jsonPoints {all : List Nat} (hall : ∀ n ∈ all, IsPoint n) :
    Says (jsonPoints all).toList (.text (joinHalves all)) := by
  refine ⟨?_, isPrintable_jsonPoints all, fun levels rest hlevels _ => ?_⟩
  · rw [jsonPoints, String.toList_ofList]
    exact ⟨'"', _, rfl, by decide, by decide, by decide⟩
  · obtain ⟨levels, rfl⟩ : ∃ less, levels = less + 1 := by
      refine Nat.exists_eq_succ_of_ne_zero fun hzero => ?_
      rw [hzero, jsonPoints, String.toList_ofList] at hlevels
      exact Nat.not_succ_le_zero _ hlevels
    rw [jsonPoints, String.toList_ofList, List.cons_append, List.cons_append, List.append_assoc,
      readDocument, if_pos rfl, List.singleton_append, readUnits_points hall]
    simp only [Option.bind_eq_bind, Option.bind_some, joinHalves_flatMap_units hall]

theorem says_jsonString (s : String) :
    Says (jsonString s).toList (.text (pointsOf s)) := by
  have hall : ∀ n ∈ pointsOf s, IsPoint n := fun n hn => isPoint_of_mem_points hn
  have hsaid := says_jsonPoints hall
  rwa [joinHalves_pointsOf] at hsaid

/-! ### Words -/

theorem isWordSign_iff {c : Char} :
    isWordSign c = true ↔
      (65 ≤ c.toNat ∧ c.toNat ≤ 90 ∨ 97 ≤ c.toNat ∧ c.toNat ≤ 122) ∨
        (48 ≤ c.toNat ∧ c.toNat ≤ 57) ∨ c = '+' ∨ c = '-' ∨ c = '.' := by
  simp only [isWordSign, Bool.or_eq_true, isAlphanum_iff, decide_eq_true_eq, or_assoc]

theorem isPrintable_of_isWordSign {c : Char} (h : isWordSign c = true) : IsPrintable c := by
  rcases isWordSign_iff.mp h with hletter | hdigit | rfl | rfl | rfl
  · rw [IsPrintable]
    omega
  · rw [IsPrintable]
    omega
  all_goals decide

theorem takeWhile_dropWhile_of_stops (h : Stops rest) : rest.takeWhile isWordSign = [] ∧
    rest.dropWhile isWordSign = rest := by
  cases rest with
  | nil => exact ⟨rfl, rfl⟩
  | cons c rest => rcases h c rfl with rfl | rfl | rfl <;> exact ⟨rfl, rfl⟩

theorem says_word (hne : cs ≠ []) (hsigns : ∀ c ∈ cs, isWordSign c = true)
    (hword : wordDocument? cs = some document) : Says cs document := by
  obtain ⟨first, tail, rfl⟩ := List.exists_cons_of_ne_nil hne
  have hfirst := hsigns first List.mem_cons_self
  have hnot {c : Char} (hc : isWordSign c = false) : first ≠ c := by
    rintro rfl
    rw [hfirst] at hc
    cases hc
  refine ⟨⟨first, tail, rfl, ?_, hnot (by decide), hnot (by decide)⟩,
    fun c hc => isPrintable_of_isWordSign (hsigns c hc), fun levels rest hlevels hrest => ?_⟩
  · simp only [isJsonBlank, Bool.or_eq_false_iff, decide_eq_false_iff_not]
    exact ⟨⟨⟨hnot (by decide), hnot (by decide)⟩, hnot (by decide)⟩, hnot (by decide)⟩
  · obtain ⟨levels, rfl⟩ := 
      Nat.exists_eq_succ_of_ne_zero (Nat.ne_of_gt (Nat.lt_of_lt_of_le (Nat.succ_pos _) hlevels))
    obtain ⟨hnone, hall⟩ := takeWhile_dropWhile_of_stops hrest
    have htake : (first :: tail ++ rest).takeWhile isWordSign = first :: tail := by
      rw [List.takeWhile_append_of_pos hsigns, hnone, List.append_nil]
    have hdrop : (first :: tail ++ rest).dropWhile isWordSign = rest := by
      rw [List.dropWhile_append_of_pos hsigns, hall]
    rw [List.cons_append] at htake hdrop ⊢
    rw [readDocument, if_neg (hnot (by decide)), if_neg (hnot (by decide)),
      if_neg (hnot (by decide)), htake, hdrop, hword]
    rfl

theorem says_null : Says "null".toList .null :=
  says_word (by decide) (List.all_eq_true.mp rfl) rfl

theorem says_bool (b : Bool) : Says (if b then "true" else "false").toList (.bool b) := by
  cases b
  · exact says_word (by decide) (List.all_eq_true.mp rfl) rfl
  · exact says_word (by decide) (List.all_eq_true.mp rfl) rfl

/-! ### Whole numbers -/

section Numbers

variable {negative : Bool} {digits word : List Char}

theorem isDigit_of_mem_toDigits {n : ℕ} : ∀ c ∈ Nat.toDigits 10 n, c.isDigit = true :=
  fun _ hc => Nat.isDigit_of_mem_toDigits (by decide) (by decide) hc

/-- A minus sign or none and digits without a leading zero are a number of JSON. -/
theorem isJsonNumber_of_signed (htext : Signed negative digits word)
    (hplus : word.head? ≠ some '+') (hdigits : IsDigits digits)
    (hascii : ∀ c ∈ digits, c.isDigit = true)
    (hzero : digits.head? ≠ some '0' ∨ digits.length = 1) : isJsonNumber word = true := by
  have hbody : (splitSign word).2 = digits := by rw [htext.splitSign_eq hdigits.ne_sign]
  have htake : digits.takeWhile Char.isDigit = digits := List.takeWhile_eq_self_iff.mpr hascii
  have hdrop : digits.dropWhile Char.isDigit = [] := List.dropWhile_eq_nil_iff.mpr hascii
  simp only [isJsonNumber, hbody, htake, hdrop, powerOfTen?, Option.isSome_some, Bool.and_true,
    Bool.and_eq_true, Bool.or_eq_true, decide_eq_true_eq, Bool.not_eq_true',
    List.isEmpty_eq_false_iff]
  exact ⟨⟨hplus, hdigits.ne_nil⟩, hzero⟩

theorem isJsonNumber_toString (n : ℤ) : isJsonNumber (toString n).toList = true := by
  refine isJsonNumber_of_signed (signed_toString n) ?_ (isDigits_toDigits _)
    isDigit_of_mem_toDigits ?_
  · rw [toList_toString]
    split
    · rw [List.head?_cons]
      decide
    · exact fun hplus => ((isDigits_toDigits _).ne_sign _ hplus).1 rfl
  · by_cases hn : n.natAbs = 0
    · rw [hn]
      exact .inr rfl
    · exact .inl (head?_toDigits_ne hn)

/-- The numeral of a whole number. -/
def wholeNumeral (n : ℤ) : Numeral := ⟨n < 0, n.natAbs, 0⟩

theorem scientificNumeral?_toString {n : ℤ} (hn : n.natAbs < Nat.pow 10 digitLimit) :
    scientificNumeral? (toString n).toList = some (wholeNumeral n) := by
  have hspells := (isWholeNumeral_toString hn).spells
  rw [placeValue_toDigits] at hspells
  exact scientificNumeral?_eq_some_iff.mpr hspells

theorem says_toString {n : ℤ} (hn : n.natAbs < Nat.pow 10 digitLimit) :
    Says (toString n).toList (.number (wholeNumeral n)) := by
  have hsigns : ∀ c ∈ (toString n).toList, c = '-' ∨ c.isDigit = true := by
    rw [toList_toString]
    split
    · exact List.forall_mem_cons.mpr ⟨.inl rfl, fun c hc => .inr (isDigit_of_mem_toDigits c hc)⟩
    · exact fun c hc => .inr (isDigit_of_mem_toDigits c hc)
  have hnoLetter {word : List Char} {c : Char} (hc : c ∈ word) (hletter : c ≠ '-')
      (hdigit : c.isDigit = false) : (toString n).toList ≠ word := by
    rintro rfl
    rcases hsigns c hc with rfl | h
    · exact hletter rfl
    · rw [hdigit] at h
      cases h
  refine says_word ?_ (fun c hc => ?_) ?_
  · rw [toList_toString]
    split
    · exact List.cons_ne_nil _ _
    · exact (isDigits_toDigits _).ne_nil
  · rcases hsigns c hc with rfl | hdigit
    · decide
    · exact isWordSign_iff.mpr (.inr (.inl (isDigit_iff.mp hdigit)))
  · rw [wordDocument?, if_neg (hnoLetter (c := 'n') (by decide) (by decide) (by decide)),
      if_neg (hnoLetter (c := 't') (by decide) (by decide) (by decide)),
      if_neg (hnoLetter (c := 'f') (by decide) (by decide) (by decide)),
      if_pos (isJsonNumber_toString n), scientificNumeral?_toString hn]
    rfl

end Numbers

/-! ### Parts with commas between them -/

section Sequences

open List (Forall₂)

variable {read : List Char → Option (α × List Char)} {close : Char} {texts : List (List Char)}
  {found : List α}

/-- The comma and the blank between two parts. -/
def comma : List Char := [',', ' ']

theorem readParts_blank (count : ℕ) (cs : List Char) :
    readParts read close count (' ' :: cs) = readParts read close count cs := by
  cases count with
  | zero => rfl
  | succ count =>
      rw [readParts, readParts]
      rfl

theorem forall_mem_intercalate {p : Char → Prop} (hcomma : ∀ c ∈ comma, p c)
    (htexts : ∀ text ∈ texts, ∀ c ∈ text, p c) : ∀ c ∈ comma.intercalate texts, p c := by
  induction texts with
  | nil => exact nofun
  | cons text texts ih =>
      obtain ⟨htext, hrest⟩ := List.forall_mem_cons.mp htexts
      cases texts with
      | nil => simpa using htext
      | cons next texts =>
          rw [List.intercalate_cons_cons]
          exact List.forall_mem_append.mpr
            ⟨List.forall_mem_append.mpr ⟨htext, hcomma⟩, ih hrest⟩

theorem length_le_of_mem {text : List Char} (h : text ∈ texts) :
    text.length ≤ (comma.intercalate texts).length := by
  induction texts with
  | nil => cases h
  | cons first texts ih =>
      cases texts with
      | nil =>
          rw [List.mem_singleton.mp h]
          simp
      | cons next texts =>
          rw [List.intercalate_cons_cons, List.length_append, List.length_append]
          rcases List.mem_cons.mp h with rfl | hmem
          · omega
          · have hle := ih hmem
            omega

/-- Texts of parts with commas between them are read as these parts. -/
theorem readParts_intercalate (hclose : close = ']' ∨ close = '\x7d')
    (h : Forall₂ (Part read) texts found) (hne : texts ≠ []) {count : ℕ} {rest : List Char}
    (hcount : (comma.intercalate texts ++ close :: rest).length ≤ count) :
    readParts read close count (comma.intercalate texts ++ close :: rest) =
      some (found, rest) := by
  have hend : Stops (close :: rest) := stops_cons (.inr hclose) rest
  have hnot : close ≠ ',' := by rcases hclose with rfl | rfl <;> decide
  have hkept : skipBlanks (close :: rest) = close :: rest := by
    rcases hclose with rfl | rfl <;> rfl
  induction h generalizing count with
  | nil => exact absurd rfl hne
  | @cons text a texts found hpart htexts ih =>
      obtain ⟨count, rfl⟩ : ∃ less, count = less + 1 := by
        refine Nat.exists_eq_succ_of_ne_zero fun hzero => ?_
        rw [hzero, List.length_append, List.length_cons] at hcount
        omega
      cases htexts with
      | nil =>
          rw [List.intercalate_singleton, readParts, hpart.starts.skipBlanks_append,
            hpart.reads _ hend]
          simp only [Option.bind_eq_bind, Option.bind_some, hkept, if_neg hnot, if_true]
      | @cons next b texts found hnext htexts =>
          have hcomma :
              Stops (',' :: ' ' :: (comma.intercalate (next :: texts) ++ close :: rest)) :=
            stops_cons (.inl rfl) _
          have hsplit : comma.intercalate (text :: next :: texts) ++ close :: rest =
              text ++ ',' :: ' ' :: (comma.intercalate (next :: texts) ++ close :: rest) := by
            rw [List.intercalate_cons_cons, comma]
            simp only [List.append_assoc, List.cons_append, List.nil_append]
          have hless : (comma.intercalate (next :: texts) ++ close :: rest).length ≤ count := by
            rw [hsplit, List.length_append, List.length_cons, List.length_cons] at hcount
            omega
          rw [hsplit, readParts, hpart.starts.skipBlanks_append, hpart.reads _ hcomma]
          simp only [Option.bind_eq_bind, Option.bind_some]
          rw [skipBlanks, List.dropWhile_cons_of_neg (by decide)]
          simp only [if_true]
          rw [readParts_blank, ih (List.cons_ne_nil _ _) hless]
          rfl

theorem readSequence_intercalate (hclose : close = ']' ∨ close = '\x7d')
    (h : Forall₂ (Part read) texts found) (rest : List Char) :
    readSequence read close (comma.intercalate texts ++ close :: rest) = some (found, rest) := by
  cases h with
  | nil => rcases hclose with rfl | rfl <;> rfl
  | @cons text a texts found hpart htexts =>
      have hread := readParts_intercalate hclose (.cons hpart htexts) (List.cons_ne_nil _ _)
        (Nat.le_refl (comma.intercalate (text :: texts) ++ close :: rest).length)
      obtain ⟨c, tail, hfirst, hblank, hbracket, hbrace⟩ := hpart.starts
      obtain ⟨more, hcons⟩ : ∃ more,
          comma.intercalate (text :: texts) ++ close :: rest = c :: more := by
        rw [hfirst]
        cases texts with
        | nil => exact ⟨_, by rw [List.intercalate_singleton, List.cons_append]⟩
        | cons next texts =>
            exact ⟨_, by rw [List.intercalate_cons_cons, List.cons_append, List.cons_append]; rfl⟩
      have hne : c ≠ close := by rcases hclose with rfl | rfl <;> assumption
      rw [hcons] at hread ⊢
      rw [readSequence, skipBlanks, List.dropWhile_cons_of_neg (by simp [hblank])]
      simp only [if_neg hne, hread]

end Sequences

/-! ### Arrays and objects -/

section Brackets

open List (Forall₂)

variable {texts : List String}

/-- Texts with commas between them, in brackets or braces. -/
def bracketed (first last : Char) (texts : List String) : List Char :=
  first :: (comma.intercalate (texts.map String.toList) ++ [last])

theorem toList_array (texts : List String) :
    ("[" ++ Value.commaList texts ++ "]").toList = bracketed '[' ']' texts := by
  rw [String.toList_append, String.toList_append, Value.commaList, String.toList_intercalate]
  rfl

theorem toList_jsonObject (texts : List String) :
    (jsonObject texts).toList = bracketed '\x7b' '\x7d' texts := by
  rw [jsonObject, String.toList_append, String.toList_append, Value.commaList,
    String.toList_intercalate]
  rfl

section Sequence

variable {read : ℕ → List Char → Option (α × List Char)} {found : List α}

theorem isPrintable_bracketed {first last : Char} (hfirst : IsPrintable first)
    (hlast : IsPrintable last) (h : Forall₂ (fun text a => Reads read text.toList a) texts found) :
    ∀ c ∈ bracketed first last texts, IsPrintable c := by
  have htexts : ∀ text ∈ texts.map String.toList, ∀ c ∈ text, IsPrintable c := by
    induction h with
    | nil => exact nofun
    | cons hreads _ ih => exact List.forall_mem_cons.mpr ⟨hreads.printable, ih⟩
  exact List.forall_mem_cons.mpr ⟨hfirst, List.forall_mem_append.mpr
    ⟨forall_mem_intercalate (isPrintable_of_all rfl) htexts, List.forall_mem_singleton.mpr hlast⟩⟩

/-- The texts between brackets are read one level down. -/
theorem readSequence_bracketed {close : Char} (hclose : close = ']' ∨ close = '\x7d')
    (h : Forall₂ (fun text a => Reads read text.toList a) texts found) {first : Char}
    (hlevels : (bracketed first close texts).length ≤ levels + 1) (rest : List Char) :
    readSequence (read levels) close
      (comma.intercalate (texts.map String.toList) ++ close :: rest) = some (found, rest) := by
  have hshort : ∀ text ∈ texts, text.toList.length ≤ levels := by
    intro text htext
    have hle := length_le_of_mem (List.mem_map_of_mem (f := String.toList) htext)
    rw [bracketed, List.length_cons, List.length_append] at hlevels
    omega
  have hparts := (List.forall₂_and_left _ _).mpr ⟨hshort, h⟩
  refine readSequence_intercalate hclose ?_ rest
  exact List.forall₂_map_left_iff.mpr (hparts.imp fun _ _ hpart => hpart.2.part hpart.1)

end Sequence

/-- Texts of items in brackets say the array of what they say. -/
theorem says_array {items : List Document}
    (h : Forall₂ (fun text item => Says text.toList item) texts items) :
    Says ("[" ++ Value.commaList texts ++ "]").toList (.array items) := by
  rw [toList_array]
  refine ⟨⟨'[', _, rfl, by decide, by decide, by decide⟩,
    isPrintable_bracketed (by decide) (by decide) h, fun levels rest hlevels _ => ?_⟩
  obtain ⟨levels, rfl⟩ :=
    Nat.exists_eq_succ_of_ne_zero (Nat.ne_of_gt (Nat.lt_of_lt_of_le (Nat.succ_pos _) hlevels))
  have hitems := readSequence_bracketed (.inl rfl) h hlevels rest
  rw [bracketed, List.cons_append, List.append_assoc, List.singleton_append, readDocument,
    if_neg (by decide), if_pos rfl, hitems]
  rfl

/-- What a member of an object is read as. -/
def readMemberIn (levels : ℕ) : List Char → Option ((List ℕ × Document) × List Char) :=
  readMember (readDocument levels)

/-- A name and a text that says a document are a member with this name and this document. -/
theorem reads_jsonMember (name : String) {text : String} (h : Says text.toList document) :
    Reads readMemberIn (jsonMember name text).toList (pointsOf name, document) := by
  have hmember : (jsonMember name text).toList =
      '"' :: ((pointsOf name).flatMap jsonPoint ++ '"' :: ':' :: ' ' :: text.toList) := by
    rw [jsonMember, String.toList_append, String.toList_append, jsonString, jsonPoints,
      String.toList_ofList, List.append_assoc, List.cons_append, List.cons_append,
      List.append_assoc]
    rfl
  refine ⟨?_, fun c hc => ?_, fun levels rest hlevels hrest => ?_⟩
  · rw [hmember]
    exact ⟨'"', _, rfl, by decide, by decide, by decide⟩
  · rw [jsonMember, String.toList_append, String.toList_append] at hc
    rcases List.mem_append.mp hc with hc | hc
    · rcases List.mem_append.mp hc with hc | hc
      · exact isPrintable_jsonPoints _ c hc
      · have hmark : ∀ c ∈ ": ".toList, IsPrintable c := isPrintable_of_all rfl
        exact hmark c hc
    · exact h.printable c hc
  · have hshort : text.toList.length ≤ levels := by
      rw [hmember] at hlevels
      simp only [List.length_cons, List.length_append] at hlevels
      omega
    have hname (n : ℕ) (hn : n ∈ pointsOf name) : IsPoint n := isPoint_of_mem_points hn
    have hskip : skipBlanks (' ' :: (text.toList ++ rest)) = text.toList ++ rest :=
      h.starts.skipBlanks_append rest
    rw [hmember, readMemberIn, List.cons_append, List.append_assoc, List.cons_append,
      List.cons_append, List.cons_append, readMember, if_pos rfl, readUnits_points hname]
    simp only [Option.bind_eq_bind, Option.bind_some]
    rw [skipBlanks, List.dropWhile_cons_of_neg (by decide)]
    simp only [if_true, hskip, h.reads levels rest hshort hrest, Option.bind_some,
      joinHalves_flatMap_units hname, joinHalves_pointsOf]

/-- Texts of members in braces say the object that has these members. -/
theorem says_jsonObject {members : List (List ℕ × Document)}
    (h : Forall₂ (fun text member => Reads readMemberIn text.toList member) texts members) :
    Says (jsonObject texts).toList (.object members) := by
  rw [toList_jsonObject]
  refine ⟨⟨'\x7b', _, rfl, by decide, by decide, by decide⟩,
    isPrintable_bracketed (by decide) (by decide) h, fun levels rest hlevels _ => ?_⟩
  obtain ⟨levels, rfl⟩ :=
    Nat.exists_eq_succ_of_ne_zero (Nat.ne_of_gt (Nat.lt_of_lt_of_le (Nat.succ_pos _) hlevels))
  have hmembers := readSequence_bracketed (.inr rfl) h hlevels rest
  rw [bracketed, List.cons_append, List.append_assoc, List.singleton_append, readDocument,
    if_neg (by decide), if_neg (by decide), if_pos rfl]
  exact congrArg (fun read => read.bind fun found => some (Document.object found.1, found.2))
    hmembers

end Brackets

end CallGuard.Log
