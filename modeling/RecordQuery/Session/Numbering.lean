import RecordQuery.Session.Basic

/-
  Numbers for the identities of mappings in the order in
  which answers show them.

  Key definitions include:
    * `RecordQuery.Numbering`
    * `RecordQuery.Numbering.see`

  Key theorems include:
    * `RecordQuery.Numbering.see_see`

  An identity keeps the number of its first appearance.
-/

------------------------------------------------------------
-- Numbering
------------------------------------------------------------

namespace RecordQuery

/- The identities seen so far, in order of appearance. -/
structure Numbering where
  seen : List Identity
  deriving DecidableEq, Repr

namespace Numbering

/- Nothing has been seen. -/
def empty : Numbering :=
  ⟨[]⟩

/- See an identity and tell its number. -/
def see
    (n : Numbering)
    (identity : Identity) :
    Nat × Numbering :=
  match n.seen.idxOf? identity with
  | some number => (number, n)
  | none => (n.seen.length, ⟨n.seen ++ [identity]⟩)

/- Seen again, an identity has the same number. -/
theorem see_see
    (n : Numbering)
    (identity : Identity) :
    (n.see identity).2.see identity =
      ((n.see identity).1, (n.see identity).2) := by
  cases hSeen : n.seen.idxOf? identity with
  | some number => simp [see, hSeen]
  | none =>
      have hNew : identity ∉ n.seen := by
        simpa using List.idxOf?_eq_none_iff.mp hSeen
      have hNone :
          n.seen.findIdx? (· == identity) = none := by
        rw [List.findIdx?_eq_none_iff]
        intro other hMem
        simp only [beq_eq_false_iff_ne]
        intro hEq
        exact hNew (hEq ▸ hMem)
      have hFound :
          (n.seen ++ [identity]).idxOf? identity =
            some n.seen.length := by
        unfold List.idxOf?
        rw [List.findIdx?_append, hNone]
        simp
      simp [see, hSeen, hFound]

end Numbering

end RecordQuery
