/-!
Texts as lists of code points. Such a list can also hold halves of surrogate pairs, which are no
characters; different texts have different code points.
-/

namespace CallGuard.Text

def points (cs : List Char) : List Nat :=
  cs.map Char.toNat

def pointsOf (s : String) : List Nat :=
  points s.toList

/-- Characters are known by their code points. -/
theorem points_injective {cs ds : List Char} (h : points cs = points ds) : cs = ds := by
  induction cs generalizing ds with
  | nil => cases ds with
    | nil => rfl
    | cons => simp [points] at h
  | cons c cs ih => cases ds with
    | nil => simp [points] at h
    | cons d ds =>
      simp only [points, List.map_cons, List.cons.injEq] at h
      rw [Char.toNat_inj.mp h.1, ih h.2]

end CallGuard.Text
