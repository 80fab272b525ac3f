import CallGuard.Log.Record
import CallGuard.Proofs.Log.Escapes

/-!
# The code points of messages

A message is a template or a template that is filled. Filling takes over characters of the template
and of the texts of its arguments, adds zeros and blanks, and can put in one code point by its code;
all of these are below the end of the code points.
-/

namespace CallGuard.Log

open CallGuard.Text

/-- What comes out has a property, if anything comes out at all. -/
def Gives {α : Type} (p : α → Prop) (outcome : Except Raised α) : Prop :=
  ∀ a, outcome = .ok a → p a

namespace Gives

variable {α β : Type} {p : β → Prop}

theorem ok {b : β} (h : p b) : Gives p (.ok b) := by
  rintro _ ⟨⟩
  exact h

theorem error (e : Raised) : Gives p (.error e) := nofun

theorem bind {first : Except Raised α} {next : α → Except Raised β}
    (h : ∀ a, first = .ok a → Gives p (next a)) : Gives p (first >>= next) := by
  cases first with
  | error e => exact error e
  | ok a => exact h a rfl

end Gives

def ArePoints (all : List Nat) : Prop := ∀ n ∈ all, IsPoint n

theorem arePoints_append {first second : List Nat} :
    ArePoints (first ++ second) ↔ ArePoints first ∧ ArePoints second :=
  List.forall_mem_append

theorem arePoints_points (cs : List Char) : ArePoints (points cs) :=
  fun _ => isPoint_of_mem_points

theorem arePoints_replicate (count : Nat) (c : Char) :
    ArePoints (List.replicate count c.toNat) := by
  intro n hn
  rw [List.eq_of_mem_replicate hn]
  exact isPoint_toNat c

/-! ### Directives -/

section Directives

variable {d : Directive} {numeric : Bool}

theorem arePoints_of_fill {lead body : List Nat} (hlead : ArePoints lead)
    (hbody : ArePoints body) : Gives ArePoints (fill d numeric lead body) := by
  rw [fill]
  split
  · exact .error _
  · split
    · exact .ok (arePoints_append.mpr
        ⟨arePoints_append.mpr ⟨hlead, hbody⟩, arePoints_replicate _ _⟩)
    · split
      · exact .ok (arePoints_append.mpr
          ⟨arePoints_append.mpr ⟨hlead, arePoints_replicate _ _⟩, hbody⟩)
      · exact .ok (arePoints_append.mpr
          ⟨arePoints_append.mpr ⟨arePoints_replicate _ _, hlead⟩, hbody⟩)

theorem arePoints_of_fillText (lead body : List Char) :
    Gives ArePoints (fillText d numeric lead body) :=
  arePoints_of_fill (arePoints_points lead) (arePoints_points body)

theorem isPoint_of_characterOf (v : Value) : Gives IsPoint (characterOf v) := by
  unfold characterOf
  split
  · split
    · rename_i n hn
      rw [Bool.and_eq_true, decide_eq_true_eq, decide_eq_true_eq] at hn
      refine .ok ?_
      rw [IsPoint]
      omega
    · exact .error _
  · rename_i b
    refine .ok ?_
    rw [IsPoint]
    split <;> omega
  · split
    · exact .ok (isPoint_toNat _)
    · exact .error _
  · exact .error _

theorem arePoints_of_wholeText (d : Directive) (n : Int) : Gives ArePoints (wholeText d n) := by
  rw [wholeText]
  split
  · exact .bind nofun
  · dsimp only
    split
    · exact .bind fun body _ => arePoints_of_fillText _ _
    · split
      · exact .bind fun body _ => arePoints_of_fillText _ _
      · split
        · exact .bind fun body _ => arePoints_of_fillText _ _
        · exact .bind fun body _ => arePoints_of_fillText _ _

theorem arePoints_of_directiveText [Platform] (d : Directive) (index : Nat) (v : Value) :
    Gives ArePoints (directiveText d index v) := by
  rw [directiveText]
  split
  · exact .bind fun s _ => arePoints_of_fillText _ _
  · split
    · exact .bind fun s _ => arePoints_of_fillText _ _
    · split
      · exact .bind fun s _ => arePoints_of_fillText _ _
      · split
        · refine .bind fun code hcode => arePoints_of_fill nofun ?_
          exact List.forall_mem_singleton.mpr (isPoint_of_characterOf v code hcode)
        · split
          · exact .bind fun n _ => arePoints_of_wholeText d n
          · split
            · exact .bind fun x _ => arePoints_of_fillText _ _
            · exact .error _

end Directives

/-! ### Templates -/

/-- The filled part of a template consists of code points. -/
def FillsPoints (outcome : Except Raised (List Nat × Supply)) : Prop :=
  Gives (fun filled => ArePoints filled.1) outcome

theorem FillsPoints.behind {front : List Nat} (hfront : ArePoints front)
    {rest : Except Raised (List Nat × Supply)} (h : FillsPoints rest) :
    FillsPoints (do
      let (text, supply) ← rest
      .ok (front ++ text, supply)) :=
  .bind fun filled hfilled => .ok (arePoints_append.mpr ⟨hfront, h filled hfilled⟩)

variable [Platform]

theorem fillsPoints_fillFrom (size : Nat) (arguments : Value) (fuel : Nat) (supply : Supply)
    (cs : List Char) : FillsPoints (fillFrom size arguments fuel supply cs) := by
  have hchar (c : Char) : ArePoints [c.toNat] := List.forall_mem_singleton.mpr (isPoint_toNat c)
  fun_induction fillFrom size arguments fuel supply cs with
  | case1 => exact .ok nofun
  | case2 => exact .ok nofun
  | case3 fuel supply cs ih => exact FillsPoints.behind (hchar '%') ih
  | case4 => exact .bind nofun
  | case5 => exact .bind nofun
  | case6 fuel supply =>
      rename_i ih
      refine .bind fun found _ => .bind fun keyed _ => .bind fun reading _ => .bind fun next _ => ?_
      exact .bind fun shown hshown =>
        FillsPoints.behind (arePoints_of_directiveText _ _ _ shown hshown) (ih reading next.2)
  | case7 fuel supply cs =>
      rename_i ih
      refine .bind fun keyed _ => .bind fun reading _ => .bind fun next _ => ?_
      exact .bind fun shown hshown =>
        FillsPoints.behind (arePoints_of_directiveText _ _ _ shown hshown) (ih reading next.2)
  | case8 fuel supply c cs =>
      rename_i ih
      exact FillsPoints.behind (hchar c) ih

theorem arePoints_of_fillTemplate (template : String) (arguments : Value) :
    Gives ArePoints (fillTemplate template arguments) := by
  refine .bind fun filled hfilled => ?_
  have hpoints := fillsPoints_fillFrom _ _ _ _ _ filled hfilled
  obtain ⟨text, left⟩ := filled
  dsimp only
  split
  · exact .error _
  · split
    · exact .ok hpoints
    · exact .error _
  · exact .ok hpoints

/-- The message of a record consists of code points. -/
theorem arePoints_of_message (record : Record) : Gives ArePoints record.message := by
  rw [Record.message]
  split
  · exact .bind nofun
  · refine .bind fun template _ => .bind fun text _ => .bind fun arguments _ => ?_
    split
    · exact arePoints_of_fillTemplate text arguments
    · exact .ok (arePoints_points text.toList)

end CallGuard.Log
