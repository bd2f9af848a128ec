import DiagnosticDigest.Stream.Sink

/-!
# What a write leaves

In which pieces a sink takes bytes, and how often it interrupts, leaves no trace: a write takes as
many bytes as there is room for, and fails exactly if that is not all of them. So writes one after
the other, each of which is only made if those before it succeed, leave what one write of all the
bytes leaves.

## Main definitions

* `Sink.HasRoom` — whether a sink takes so many bytes.
* `Sink.takeFitting`, `Sink.refusal?` — what a write leaves, and how it fails.
* `Sink.settled` — a sink apart from the manners of its next answers.
-/

namespace DiagnosticDigest.Sink

/-- Whether there is room for so many bytes. -/
def HasRoom (s : Sink) (count : Nat) : Prop :=
  ∀ room ∈ s.room, count ≤ room

instance (s : Sink) (count : Nat) : Decidable (s.HasRoom count) :=
  inferInstanceAs (Decidable (∀ room ∈ s.room, count ≤ room))

/-- The sink after it has taken as many of the bytes as there is room for, from the front. -/
def takeFitting (s : Sink) (bytes : List UInt8) : Sink :=
  s.take (bytes.take (s.fitting bytes.length))

/-- How a write of so many bytes fails, if it does. -/
def refusal? (s : Sink) (count : Nat) : Option Failure :=
  if s.HasRoom count then none else some s.refusalFailure

/-- A sink whose next answers take whatever there is room for. -/
def settled (s : Sink) : Sink :=
  { s with manners := [] }

/-! ## Manners do not count -/

@[simp] theorem flush_settled (s : Sink) : s.settled.flush = s.flush := rfl

@[simp] theorem refusal?_settled (s : Sink) (count : Nat) :
    s.settled.refusal? count = s.refusal? count := rfl

@[simp] theorem settled_takeFitting (s : Sink) (bytes : List UInt8) :
    (s.takeFitting bytes).settled = s.settled.takeFitting bytes := rfl

/-! ## Room -/

theorem fitting_of_hasRoom {s : Sink} {count : Nat} (h : s.HasRoom count) :
    s.fitting count = count := by
  rw [fitting]
  cases hroom : s.room with
  | none => rfl
  | some room =>
    have hle : count ≤ room := h room hroom
    exact Nat.min_eq_right hle

theorem fitting_lt_iff {s : Sink} {count : Nat} : s.fitting count < count ↔ ¬ s.HasRoom count := by
  rw [fitting, HasRoom]
  cases s.room with
  | none => simp
  | some room =>
    simp only [Option.mem_some_iff, forall_eq']
    omega

theorem fitting_le (s : Sink) (count : Nat) : s.fitting count ≤ count := by
  rw [fitting]
  cases s.room with
  | none => exact Nat.le_refl _
  | some room => exact Nat.min_le_right _ _

theorem hasRoom_fitting (s : Sink) (count : Nat) : s.HasRoom (s.fitting count) := by
  intro room hroom
  have hsome : s.room = some room := hroom
  rw [fitting, hsome]
  exact Nat.min_le_left _ _

/-- A sink that none of some bytes fit into has no room at all. -/
theorem room_of_fitting_eq_zero {s : Sink} {count : Nat} (hpos : 0 < count)
    (h : s.fitting count = 0) : s.room = some 0 := by
  rw [fitting] at h
  cases hroom : s.room with
  | none =>
    simp only [hroom] at h
    omega
  | some room =>
    simp only [hroom] at h
    congr 1
    omega

theorem HasRoom.mono {s : Sink} {m n : Nat} (h : s.HasRoom n) (hle : m ≤ n) : s.HasRoom m :=
  fun room hroom => Nat.le_trans hle (h room hroom)

theorem refusal?_eq_none_iff {s : Sink} {count : Nat} :
    s.refusal? count = none ↔ s.HasRoom count := by
  simp [refusal?]

theorem takeFitting_of_hasRoom {s : Sink} {bytes : List UInt8} (h : s.HasRoom bytes.length) :
    s.takeFitting bytes = s.take bytes := by
  rw [takeFitting, fitting_of_hasRoom h, List.take_length]

/-- Bytes that there is room for can be taken ahead of others. -/
theorem takeFitting_take {s : Sink} {a : List UInt8} (h : s.HasRoom a.length) (b : List UInt8) :
    (s.take a).takeFitting b = s.takeFitting (a ++ b) := by
  cases hroom : s.room with
  | none =>
    have hall : (a ++ b).take (a.length + b.length) = a ++ b := by
      rw [← List.length_append, List.take_length]
    simp [takeFitting, take, fitting, hroom, hall]
  | some room =>
    have hle : a.length ≤ room := h room hroom
    have hfits : min room (a.length + b.length) = a.length + min (room - a.length) b.length := by
      omega
    simp [takeFitting, take, fitting, hroom, hfits, List.take_length_add_append, Nat.sub_sub]

theorem refusal?_take {s : Sink} {a : List UInt8} (h : s.HasRoom a.length) (count : Nat) :
    (s.take a).refusal? count = s.refusal? (a.length + count) := by
  have hiff : (s.take a).HasRoom count ↔ s.HasRoom (a.length + count) := by
    cases hroom : s.room with
    | none => simp [HasRoom, take, hroom]
    | some room =>
      have hle : a.length ≤ room := h room hroom
      simp only [HasRoom, take, hroom, Option.map_some, Option.mem_some_iff, forall_eq']
      omega
  simp only [refusal?, hiff]
  rfl

/-- Bytes that there is no room for keep those behind them from arriving. -/
theorem takeFitting_append_of_not {s : Sink} {a : List UInt8} (h : ¬ s.HasRoom a.length)
    (b : List UInt8) : s.takeFitting (a ++ b) = s.takeFitting a := by
  cases hroom : s.room with
  | none => simp [HasRoom, hroom] at h
  | some room =>
    have hlt : room < a.length := by
      simpa [HasRoom, hroom] using h
    have hmin : min room (a.length + b.length) = room := by
      omega
    have hzero : room - a.length = 0 := by
      omega
    simp [takeFitting, fitting, hroom, hmin, hzero, Nat.min_eq_left (Nat.le_of_lt hlt),
      List.take_append]

theorem refusal?_append_of_not {s : Sink} {a : List UInt8} (h : ¬ s.HasRoom a.length)
    (b : List UInt8) : s.refusal? (a ++ b).length = s.refusal? a.length := by
  have hfull : ¬ s.HasRoom (a ++ b).length := fun hroom => h (hroom.mono (by simp))
  rw [refusal?, if_neg hfull, refusal?, if_neg h]

/-! ## Writing -/

/-- A write takes the bytes that there is room for, and fails exactly if some are left over. The
induction is on the answers in given manners: each takes some bytes ahead of the others or none. -/
theorem offer_settled (s : Sink) (bytes : List UInt8) (manners : List Manner) :
    (s.offer bytes manners).1.settled = (s.takeFitting bytes).settled ∧
      (s.offer bytes manners).2 = s.refusal? bytes.length := by
  fun_induction offer s bytes manners with
  | case1 s bytes count taken hlt =>
    have hfull : ¬ s.HasRoom bytes.length := fitting_lt_iff.mp hlt
    exact ⟨rfl, by rw [refusal?, if_neg hfull]⟩
  | case2 s bytes count taken hle =>
    have hroom : s.HasRoom bytes.length :=
      Decidable.of_not_not fun hfull => hle (fitting_lt_iff.mpr hfull)
    exact ⟨rfl, by rw [refusal?, if_pos hroom]⟩
  | case3 s bytes manners hempty =>
    obtain rfl := List.isEmpty_iff.mp hempty
    simp [takeFitting, take, refusal?, HasRoom, settled]
  | case4 s bytes manners _ ih => exact ih
  | case5 s bytes extra manners hempty =>
    obtain rfl := List.isEmpty_iff.mp hempty
    simp [takeFitting, take, refusal?, HasRoom, settled]
  | case6 s bytes extra manners hne count hcount =>
    have hpos : 0 < bytes.length := List.length_pos_iff.mpr (by simpa using hne)
    have hroom : s.room = some 0 := room_of_fitting_eq_zero (by omega) hcount
    have hfull : ¬ s.HasRoom bytes.length := by
      intro h
      have := h 0 hroom
      omega
    refine ⟨?_, by rw [refusal?, if_neg hfull]⟩
    simp [takeFitting, take, fitting, hroom, settled]
  | case7 s bytes extra manners hne count hcount ih =>
    have hle : count ≤ bytes.length := by
      have := s.fitting_le (min (extra + 1) bytes.length)
      omega
    have hlength : (bytes.take count).length = count := List.length_take_of_le hle
    have hroom : s.HasRoom (bytes.take count).length := by
      rw [hlength]
      exact s.hasRoom_fitting _
    have hrest : count + (bytes.length - count) = bytes.length := by
      omega
    rw [takeFitting_take hroom, List.take_append_drop, refusal?_take hroom, hlength,
      List.length_drop, hrest] at ih
    exact ih

/-- Writing everything takes the bytes that there is room for, and fails exactly if some are left
over. -/
theorem writeAll_settled (s : Sink) (bytes : List UInt8) :
    (s.writeAll bytes).1.settled = (s.takeFitting bytes).settled ∧
      (s.writeAll bytes).2 = s.refusal? bytes.length :=
  s.offer_settled bytes s.manners

/-- Writing pieces one after the other leaves what one write of all their bytes leaves. -/
theorem writeEach_settled (s : Sink) (pieces : List (List UInt8)) :
    (s.writeEach pieces).1.settled = (s.takeFitting pieces.flatten).settled ∧
      (s.writeEach pieces).2 = s.refusal? pieces.flatten.length := by
  fun_induction writeEach s pieces with
  | case1 s => simp [takeFitting, take, refusal?, HasRoom, settled]
  | case2 s piece rest next hwrite ih =>
    -- the first piece fits, and the others go to the sink that it left
    obtain ⟨hsink, hfailure⟩ := s.writeAll_settled piece
    rw [hwrite] at hsink hfailure
    have hroom : s.HasRoom piece.length := refusal?_eq_none_iff.mp hfailure.symm
    rw [takeFitting_of_hasRoom hroom] at hsink
    obtain ⟨hnext, hnextFailure⟩ := ih
    rw [List.flatten_cons]
    constructor
    · rw [hnext, settled_takeFitting, hsink, ← settled_takeFitting, takeFitting_take hroom]
    · rw [hnextFailure, ← refusal?_settled, hsink, refusal?_settled, refusal?_take hroom,
        List.length_append]
  | case3 s piece rest next reason hwrite =>
    -- the first piece does not fit, and nothing behind it is written
    obtain ⟨hsink, hfailure⟩ := s.writeAll_settled piece
    rw [hwrite] at hsink hfailure
    have hfull : ¬ s.HasRoom piece.length := by
      rw [← refusal?_eq_none_iff, ← hfailure]
      exact Option.some_ne_none reason
    rw [List.flatten_cons, takeFitting_append_of_not hfull, refusal?_append_of_not hfull]
    exact ⟨hsink, hfailure⟩

end DiagnosticDigest.Sink
