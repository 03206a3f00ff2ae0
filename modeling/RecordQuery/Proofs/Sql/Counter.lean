import RecordQuery.Sql.Draft

/-
  The numbers that placeholders get, one after the other.

  Key definitions include:
    * `RecordQuery.Counter.numbers`
    * `RecordQuery.Counter.HasRoom`

  Key theorems include:
    * `RecordQuery.Counter.numbers_succ`
    * `RecordQuery.Counter.toNat_add`
    * `RecordQuery.Counter.toNat_numbers`

  Numbers are words, so they start again with zero after the
  largest word.  While there is room below it, they are the
  natural numbers after the counter.
-/

------------------------------------------------------------
-- Next Numbers
------------------------------------------------------------

namespace RecordQuery

namespace Counter

/- The next `count` numbers after a counter. -/
def numbers
    (counter : UInt32)
    (count : Nat) :
    List UInt32 :=
  (List.range count).map
    (fun i => counter + UInt32.ofNat (i + 1))

/- There are as many numbers as were asked for. -/
@[simp] theorem length_numbers
    (counter : UInt32)
    (count : Nat) :
    (numbers counter count).length = count := by
  simp [numbers]

/- Counting on by one and then by the rest. -/
theorem add_one_add
    (counter : UInt32)
    (count : Nat) :
    counter + 1 + UInt32.ofNat count =
      counter + UInt32.ofNat (count + 1) := by
  rw [UInt32.ofNat_add, UInt32.add_assoc,
    UInt32.add_comm 1]
  rfl

/- The first number, and those that count on from it. -/
theorem numbers_succ
    (counter : UInt32)
    (count : Nat) :
    numbers counter (count + 1) =
      (counter + 1) :: numbers (counter + 1) count := by
  unfold numbers
  rw [List.range_succ_eq_map, List.map_cons, List.map_map]
  refine congrArg ((counter + 1) :: ·) ?_
  apply List.map_congr_left
  intro i _
  exact (add_one_add counter (i + 1)).symm

end Counter

end RecordQuery

------------------------------------------------------------
-- Room For More Numbers
------------------------------------------------------------

namespace RecordQuery

namespace Counter

/- The next `count` numbers are not too large for a word. -/
def HasRoom
    (counter : UInt32)
    (count : Nat) :
    Prop :=
  counter.toNat + count < UInt32.size
  deriving Decidable

/- With room, words count like natural numbers. -/
theorem toNat_add
    {counter : UInt32}
    {count : Nat}
    (hRoom : HasRoom counter count) :
    (counter + UInt32.ofNat count).toNat =
      counter.toNat + count := by
  have hCount : count < UInt32.size :=
    Nat.lt_of_le_of_lt (Nat.le_add_left _ _) hRoom
  rw [UInt32.toNat_add, UInt32.toNat_ofNat_of_lt' hCount]
  exact Nat.mod_eq_of_lt hRoom

/- With room, the next numbers are the natural ones. -/
theorem toNat_numbers
    {counter : UInt32}
    {count : Nat}
    (hRoom : HasRoom counter count) :
    (numbers counter count).map UInt32.toNat =
      List.range' (counter.toNat + 1) count := by
  rw [numbers, List.map_map, List.range'_eq_map_range]
  apply List.map_congr_left
  intro i hMem
  have hIndex : i < count := List.mem_range.mp hMem
  have hPart : HasRoom counter (i + 1) := by
    unfold HasRoom at hRoom ⊢
    omega
  calc
    (counter + UInt32.ofNat (i + 1)).toNat =
        counter.toNat + (i + 1) := toNat_add hPart
    _ = counter.toNat + 1 + i := by omega

end Counter

end RecordQuery
