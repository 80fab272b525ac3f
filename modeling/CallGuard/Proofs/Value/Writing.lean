import CallGuard.Value.Written

/-!
# Which values have a written form

Writing a value goes down into what it holds. Each value on the way takes up levels, of which there
are only so many; its own numbers have to be short enough to be written, and a callable has to have
a written form. Nothing else can keep a value from being written: it has a written form exactly when
everything within it is near enough and can be told by itself.
-/

namespace CallGuard.Value

open Number

/-- The values that are written as parts of a value. -/
def held : Value → List Value
  | .list items | .tuple items | .deque items | .set items => items
  | .mapping entries | .view entries => entries.flatMap fun entry => [entry.1, entry.2]
  | .record _ fields | .object _ fields _ => fields.map (·.2)
  | _ => []

def taken : Value → Nat
  | .list _ | .tuple _ | .mapping _ => 1
  | .deque _ | .set _ | .view _ | .record .. | .object .. => 2
  | _ => 0

/-- The whole numbers of which a value is made up itself. -/
def ownNumbers : Value → List Int
  | .int n => [n]
  | .fraction num den => [num, den]
  | .range start stop step => [start, stop, step]
  | _ => []

def IsShort (n : Int) : Prop :=
  n.natAbs < Nat.pow 10 digitLimit

/-- A value stands within another one, below values that take up a number of levels. -/
inductive Within : Value → Nat → Value → Prop
  | self (v : Value) : Within v 0 v
  | inside {v part within : Value} {depth : Nat} (hpart : part ∈ v.held)
      (h : Within part depth within) : Within v (v.taken + depth) within

theorem intText_eq_error_iff {n : Int} {e : Raised} :
    intText n = .error e ↔ ¬IsShort n ∧ e = tooManyDigits := by
  rw [intText, IsShort, Nat.not_lt]
  by_cases hlong : n.natAbs ≥ Nat.pow 10 digitLimit
  · rw [if_pos hlong]
    constructor
    · rintro ⟨⟩
      exact ⟨hlong, rfl⟩
    · rintro ⟨-, rfl⟩
      rfl
  · rw [if_neg hlong]
    exact ⟨nofun, fun h => absurd h.1 hlong⟩

theorem taken_pos_of_held {v part : Value} (h : part ∈ v.held) : 0 < v.taken := by
  cases v with
  | list _ | tuple _ | mapping _ | deque _ | set _ | view _ | record _ _ | object _ _ _ =>
      simp only [taken]
      decide
  | _ => exact absurd h List.not_mem_nil

variable [Platform]

/-- A value at a depth is not too deep, and it can be told by itself. -/
structure Fits (levels depth : Nat) (v : Value) : Prop where
  near : depth + v.taken ≤ levels
  short : ∀ n ∈ v.ownNumbers, IsShort n
  shown : ∀ c, v = .callable c → ∃ text, Platform.callableText c = .ok text

inductive Fault (levels depth : Nat) (v : Value) : Raised → Prop
  | deep (h : levels < depth + v.taken) : Fault levels depth v (tooDeep writing)
  | long {n : Int} (hn : n ∈ v.ownNumbers) (h : ¬IsShort n) : Fault levels depth v tooManyDigits
  | unshown {c : Callable} {e : Raised} (hc : v = .callable c)
      (h : Platform.callableText c = .error e) : Fault levels depth v e

def Writable (v : Value) : Prop :=
  ∀ depth within, v.Within depth within → Fits Platform.writtenLevels depth within

theorem Fault.not_fits {levels depth : Nat} {v : Value} {e : Raised} (h : Fault levels depth v e) :
    ¬Fits levels depth v := by
  intro hfits
  cases h with
  | deep hdeep => exact Nat.not_le_of_lt hdeep hfits.near
  | long hn hlong => exact hlong (hfits.short _ hn)
  | unshown hc hraised =>
      obtain ⟨text, hshown⟩ := hfits.shown _ hc
      cases hraised.symm.trans hshown

/-- A fault stays one at a depth that is as far beyond the levels as before. -/
theorem Fault.deeper {levels depth taken : Nat} {v : Value} {e : Raised} (htaken : taken ≤ levels)
    (h : Fault (levels - taken) depth v e) : Fault levels (taken + depth) v e := by
  cases h with
  | deep hdeep => exact .deep (by omega)
  | long hn hlong => exact .long hn hlong
  | unshown hc hraised => exact .unshown hc hraised

/-! ### What a value is told by -/

/-- The texts that a value asks for itself when it is written. -/
def ownTexts : Value → List (Except Raised String)
  | .callable c => [Platform.callableText c]
  | v => v.ownNumbers.map intText

theorem Fault.of_ownTexts {levels depth : Nat} {v : Value} {e : Raised}
    (h : .error e ∈ v.ownTexts) : Fault levels depth v e := by
  cases v with
  | callable c => exact .unshown rfl (List.mem_singleton.mp h).symm
  | _ =>
      obtain ⟨n, hn, hraised⟩ := List.mem_map.mp h
      obtain ⟨hlong, rfl⟩ := intText_eq_error_iff.mp hraised
      exact .long hn hlong

theorem Fits.of_ownTexts {levels : Nat} {v : Value} (hnear : v.taken ≤ levels)
    (h : ∀ outcome ∈ v.ownTexts, ∃ text, outcome = .ok text) : Fits levels 0 v := by
  refine ⟨by omega, fun n hn => ?_, ?_⟩
  · refine Classical.byContradiction fun hlong => ?_
    have htexts : v.ownTexts = v.ownNumbers.map intText := by
      cases v with
      | callable c => exact absurd hn List.not_mem_nil
      | _ => rfl
    obtain ⟨text, htext⟩ := h (intText n) (htexts ▸ List.mem_map.mpr ⟨n, hn, rfl⟩)
    cases htext.symm.trans (intText_eq_error_iff.mpr ⟨hlong, rfl⟩)
  · rintro c rfl
    exact h _ List.mem_cons_self

/-! ### One step down -/

/-- How writing texts and parts ends: all of them are there, or one of them is at fault. -/
inductive Ends {α : Type} (levels : Nat) (texts : List (Except Raised String))
    (parts : List Value) : Except Raised α → Prop
  | written (a : α) (htexts : ∀ outcome ∈ texts, ∃ text, outcome = .ok text)
      (hparts : ∀ part ∈ parts, ∃ text, writtenForm levels part = .ok text) :
      Ends levels texts parts (.ok a)
  | text {e : Raised} (h : .error e ∈ texts) : Ends levels texts parts (.error e)
  | part {part : Value} {e : Raised} (hpart : part ∈ parts)
      (h : writtenForm levels part = .error e) : Ends levels texts parts (.error e)

namespace Ends

variable {α β : Type} {levels : Nat} {texts more : List (Except Raised String)}
  {parts further : List Value}

theorem nothing (a : α) : Ends levels [] [] (.ok a : Except Raised α) :=
  .written a nofun nofun

theorem append {first : Except Raised α} {next : α → Except Raised β}
    (hfirst : Ends levels texts parts first) (hnext : ∀ a, Ends levels more further (next a)) :
    Ends levels (texts ++ more) (parts ++ further) (first >>= next) := by
  cases hfirst with
  | text h => exact .text (List.mem_append_left more h)
  | part hpart h => exact .part (List.mem_append_left further hpart) h
  | written a htexts hparts =>
      show Ends levels _ _ (next a)
      have hlast := hnext a
      generalize next a = last at hlast
      cases hlast with
      | text h => exact .text (List.mem_append_right texts h)
      | part hpart h => exact .part (List.mem_append_right parts hpart) h
      | written b hmore hfurther =>
          exact .written b (List.forall_mem_append.mpr ⟨htexts, hmore⟩)
            (List.forall_mem_append.mpr ⟨hparts, hfurther⟩)

theorem map {first : Except Raised α} (hfirst : Ends levels texts parts first) (f : α → β) :
    Ends levels texts parts (first >>= fun a => .ok (f a)) := by
  have hmapped := hfirst.append fun a => nothing (f a)
  rwa [List.append_nil, List.append_nil] at hmapped

theorem asked (outcome : Except Raised String) : Ends levels [outcome] [] outcome := by
  cases outcome with
  | error e => exact .text List.mem_cons_self
  | ok text =>
      refine .written text (fun found hfound => ?_) nofun
      exact ⟨text, List.mem_singleton.mp hfound⟩

theorem writtenForm (v : Value) : Ends levels [] [v] (v.writtenForm levels) := by
  cases h : v.writtenForm levels with
  | error e => exact .part List.mem_cons_self h
  | ok text =>
      refine .written text nofun fun part hpart => ?_
      rw [List.mem_singleton.mp hpart]
      exact ⟨text, h⟩

theorem writtenItems (items : List Value) :
    Ends levels [] items (Value.writtenItems levels items) := by
  induction items with
  | nil =>
      rw [Value.writtenItems]
      exact nothing []
  | cons item rest ih =>
      rw [Value.writtenItems]
      exact (writtenForm item).append fun part => ih.map fun parts => part :: parts

theorem writtenEntries (entries : List (Value × Value)) :
    Ends levels [] (entries.flatMap fun entry => [entry.1, entry.2])
      (Value.writtenEntries levels entries) := by
  induction entries with
  | nil =>
      rw [Value.writtenEntries]
      exact nothing []
  | cons entry rest ih =>
      rw [Value.writtenEntries, List.flatMap_cons]
      refine (writtenForm entry.1).append fun k => ?_
      exact (writtenForm entry.2).append fun v => ih.map fun parts => (k ++ ": " ++ v) :: parts

theorem writtenFields (fields : List (String × Value)) :
    Ends levels [] (fields.map (·.2)) (Value.writtenFields levels fields) := by
  induction fields with
  | nil =>
      rw [Value.writtenFields]
      exact nothing []
  | cons field rest ih =>
      rw [Value.writtenFields, List.map_cons]
      exact (writtenForm field.2).append fun v => ih.map fun parts => (field.1 ++ "=" ++ v) :: parts

end Ends

/-- Writing a value fails on the spot if it is too deep, and otherwise ends as its parts have it. -/
theorem ends_writtenForm (levels : Nat) (v : Value) :
    (levels < v.taken ∧ v.writtenForm levels = .error (tooDeep writing)) ∨
      (v.taken ≤ levels ∧ Ends (levels - v.taken) v.ownTexts v.held (v.writtenForm levels)) := by
  have hinside {α : Type} {taken : Nat} {parts : List Value} (inner : Nat → Except Raised α)
      (text : α → String) (hparts : Ends (levels - taken) [] parts (inner (levels - taken))) :
      (levels < taken ∧ (levelsInside writing levels taken >>= fun left =>
          inner left >>= fun found => .ok (text found)) = .error (tooDeep writing)) ∨
        (taken ≤ levels ∧ Ends (levels - taken) [] parts (levelsInside writing levels taken >>=
          fun left => inner left >>= fun found => .ok (text found))) := by
    unfold levelsInside
    by_cases hdeep : levels < taken
    · rw [if_pos hdeep]
      exact Or.inl ⟨hdeep, rfl⟩
    · rw [if_neg hdeep]
      exact Or.inr ⟨Nat.le_of_not_lt hdeep, hparts.map text⟩
  have hplain (text : String) : Ends levels [] [] (.ok text : Except Raised String) :=
    Ends.nothing text
  cases v with
  | int n =>
      rw [writtenForm]
      exact Or.inr ⟨Nat.zero_le _, Ends.asked _⟩
  | fraction num den =>
      rw [writtenForm]
      refine Or.inr ⟨Nat.zero_le _, (Ends.asked _).append fun n => ?_⟩
      exact (Ends.asked _).map fun d => "Fraction(" ++ n ++ ", " ++ d ++ ")"
  | range start stop step =>
      rw [writtenForm]
      refine Or.inr ⟨Nat.zero_le _, (Ends.asked _).append fun a => ?_⟩
      exact (Ends.asked _).append fun b => (Ends.asked _).map _
  | list items =>
      rw [writtenForm]
      exact hinside (writtenItems · items) _ (Ends.writtenItems items)
  | tuple items =>
      rw [writtenForm]
      exact hinside (writtenItems · items) _ (Ends.writtenItems items)
  | deque items =>
      rw [writtenForm]
      exact hinside (writtenItems · items) _ (Ends.writtenItems items)
  | set items =>
      rw [writtenForm]
      exact hinside (writtenItems · items) _ (Ends.writtenItems items)
  | mapping entries =>
      rw [writtenForm]
      exact hinside (writtenEntries · entries) _ (Ends.writtenEntries entries)
  | view entries =>
      rw [writtenForm]
      exact hinside (writtenEntries · entries) _ (Ends.writtenEntries entries)
  | record type fields =>
      rw [writtenForm]
      exact hinside (writtenFields · fields) _ (Ends.writtenFields fields)
  | object type attributes raising =>
      rw [writtenForm]
      exact hinside (writtenFields · attributes) _ (Ends.writtenFields attributes)
  | callable c =>
      rw [writtenForm]
      exact Or.inr ⟨Nat.zero_le _, Ends.asked _⟩
  | _ =>
      rw [writtenForm]
      exact Or.inr ⟨Nat.zero_le _, hplain _⟩

/-! ### All the way down -/

/-- A value is written when everything within it fits, and else something within is at fault. -/
theorem writtenForm_or_fault (levels : Nat) (v : Value) :
    (∃ text, v.writtenForm levels = .ok text ∧
      ∀ depth within, v.Within depth within → Fits levels depth within) ∨
    ∃ e depth within, v.writtenForm levels = .error e ∧ v.Within depth within ∧
      Fault levels depth within e := by
  induction levels using Nat.strongRecOn generalizing v with
  | ind levels ih =>
      rcases ends_writtenForm levels v with ⟨hdeep, hform⟩ | ⟨hnear, hends⟩
      · exact Or.inr ⟨_, 0, v, hform, .self v, .deep (by rwa [Nat.zero_add])⟩
      have hbelow {part : Value} (hpart : part ∈ v.held) :=
        ih (levels - v.taken) (by have := taken_pos_of_held hpart; omega) part
      generalize v.writtenForm levels = outcome at hends
      cases hends with
      | text htext => exact Or.inr ⟨_, 0, v, rfl, .self v, .of_ownTexts htext⟩
      | part hpart hfault =>
          rcases hbelow hpart with ⟨text, hform, _⟩ | ⟨e, depth, within, hform, hwithin, hfaulty⟩
          · rw [hfault] at hform
            cases hform
          · rw [hfault] at hform
            cases hform
            exact Or.inr ⟨_, v.taken + depth, within, rfl, .inside hpart hwithin,
              hfaulty.deeper hnear⟩
      | written text htexts hparts =>
          refine Or.inl ⟨text, rfl, fun depth within hwithin => ?_⟩
          cases hwithin with
          | self => exact .of_ownTexts hnear htexts
          | inside hpart hwithin =>
              rcases hbelow hpart with ⟨_, _, hfits⟩ | ⟨e, _, _, hfault, _⟩
              · obtain ⟨hnearer, hshort, hshown⟩ := hfits _ _ hwithin
                exact ⟨by omega, hshort, hshown⟩
              · obtain ⟨text, hform⟩ := hparts _ hpart
                rw [hform] at hfault
                cases hfault

theorem exists_written_iff (v : Value) : (∃ text, v.written = .ok text) ↔ v.Writable := by
  rcases writtenForm_or_fault Platform.writtenLevels v with
    ⟨text, hform, hfits⟩ | ⟨e, depth, within, hform, hwithin, hfault⟩
  · exact ⟨fun _ => hfits, fun _ => ⟨text, hform⟩⟩
  · constructor
    · rintro ⟨text, htext⟩
      rw [written, hform] at htext
      cases htext
    · exact fun hwritable => absurd (hwritable depth within hwithin) hfault.not_fits

theorem not_writable_of_error {v : Value} {e : Raised} (h : v.written = .error e) :
    ¬v.Writable := by
  intro hwritable
  obtain ⟨text, hwritten⟩ := v.exists_written_iff.mpr hwritable
  rw [h] at hwritten
  cases hwritten

end CallGuard.Value
