import AwesomeNetwork.Downloading.BatchEvents
import Mathlib.Algebra.Order.Field.Basic
import Mathlib.Data.Rat.Lemmas
import Mathlib.Tactic.Positivity
import Mathlib.Tactic.Linarith

/-! # The values of progress

A progress is the quotient of the bytes written and the bytes expected. The session reports
-1 for a size that it does not know; the quotient is then negative as soon as something was
written, and for the size 0 there is none.
-/

namespace AwesomeNetwork

/-- `NSURLSessionTransferSizeUnknown`. -/
def NSURLSessionTransferSizeUnknown : Int := -1

namespace DownloadProgress

/-- `Float(totalBytesWritten)/Float(totalBytesExpectedToWrite)`, as an exact number. -/
def value (progress : DownloadProgress) : Option ℚ :=
  if progress.totalBytesExpectedToWrite = 0 then none
  else some ((progress.totalBytesWritten : ℚ) / (progress.totalBytesExpectedToWrite : ℚ))

/-- The size is known and positive, or nothing has been written. -/
def Measurable (progress : DownloadProgress) : Prop :=
  progress.totalBytesExpectedToWrite ≠ 0 ∧
    (progress.totalBytesExpectedToWrite = NSURLSessionTransferSizeUnknown →
      progress.totalBytesWritten = 0)

instance (progress : DownloadProgress) : Decidable progress.Measurable :=
  inferInstanceAs (Decidable (_ ∧ _))

/-- The messages of a transfer: the bytes written do not decrease, and they do not exceed the
size wherever it is known. -/
structure OfTransfer (messages : List DownloadProgress) (size : Nat) : Prop where
  written : ∀ message ∈ messages, 0 ≤ message.totalBytesWritten
  ordered : messages.Pairwise fun first second =>
    first.totalBytesWritten ≤ second.totalBytesWritten
  expected : ∀ message ∈ messages,
    message.totalBytesExpectedToWrite = NSURLSessionTransferSizeUnknown ∨
      (message.totalBytesExpectedToWrite = size ∧ message.totalBytesWritten ≤ size)

/-- The part of the size that is written. -/
def part (size : Nat) (progress : DownloadProgress) : ℚ :=
  (progress.totalBytesWritten : ℚ) / (size : ℚ)

/-- All values are defined, lie between 0 and 1 and do not decrease. -/
def InRange (values : List (Option ℚ)) : Prop :=
  ∃ known : List ℚ, values = known.map some ∧ known.Pairwise (· ≤ ·) ∧
    ∀ value ∈ known, 0 ≤ value ∧ value ≤ 1

variable {messages : List DownloadProgress} {size : Nat} {message : DownloadProgress}

/-- A measurable progress is a part of the size. -/
theorem value_of_measurable (transfer : OfTransfer messages size) (member : message ∈ messages)
    (measurable : message.Measurable) : message.value = some (part size message) := by
  unfold value part
  rw [if_neg measurable.1]
  rcases transfer.expected message member with unknown | ⟨known, _⟩
  · rw [measurable.2 unknown, Int.cast_zero, zero_div, zero_div]
  · rw [known, Int.cast_natCast]

/-- A part of a known size is between 0 and 1. -/
theorem part_between (transfer : OfTransfer messages size) (member : message ∈ messages)
    (measurable : message.Measurable) : 0 ≤ part size message ∧ part size message ≤ 1 := by
  have written := transfer.written message member
  have bounded : message.totalBytesWritten ≤ size := by
    rcases transfer.expected message member with unknown | ⟨_, bounded⟩
    · rw [measurable.2 unknown]
      exact Int.natCast_nonneg size
    · exact bounded
  unfold part
  constructor
  · positivity
  · apply div_le_one_of_le₀
    · exact_mod_cast bounded
    · positivity

/-- A value that is not negative comes from a known size. -/
theorem measurable_of_value {value : ℚ} (written : 0 ≤ message.totalBytesWritten)
    (defined : message.value = some value) (nonneg : 0 ≤ value) : message.Measurable := by
  unfold DownloadProgress.value at defined
  split at defined
  · cases defined
  next sized =>
    refine ⟨sized, fun unknown => ?_⟩
    cases defined
    rw [unknown, NSURLSessionTransferSizeUnknown, Int.cast_neg, Int.cast_one, div_neg, div_one,
      Left.nonneg_neg_iff] at nonneg
    have nonpos : message.totalBytesWritten ≤ 0 := by exact_mod_cast nonneg
    exact le_antisymm nonpos written

/-- **The values of a transfer.** From the 0 of the announcement to the 1 of the end they stay
in range exactly when every message is measurable. -/
theorem inRange_iff (transfer : OfTransfer messages size) :
    InRange (some 0 :: messages.map value ++ [some 1]) ↔
      ∀ message ∈ messages, message.Measurable := by
  constructor
  · rintro ⟨known, same, _, bounded⟩ message member
    have listed : message.value ∈ known.map some := by
      rw [← same]
      exact List.mem_append_left _ (List.mem_cons_of_mem _ (List.mem_map_of_mem member))
    obtain ⟨value, present, defined⟩ := List.mem_map.mp listed
    exact measurable_of_value (transfer.written message member) defined.symm
      (bounded value present).1
  · intro measurable
    have between : ∀ message ∈ messages, 0 ≤ part size message ∧ part size message ≤ 1 :=
      fun message member => part_between transfer member (measurable message member)
    refine ⟨0 :: messages.map (part size) ++ [1], ?_, ?_, ?_⟩
    · rw [List.map_append, List.map_cons, List.map_map]
      congr 2
      apply List.map_congr_left
      intro message member
      exact value_of_measurable transfer member (measurable message member)
    · rw [List.pairwise_append, List.pairwise_cons, List.pairwise_map]
      refine ⟨⟨?_, ?_⟩, List.pairwise_singleton _ _, ?_⟩
      · intro value member
        obtain ⟨message, present, rfl⟩ := List.mem_map.mp member
        exact (between message present).1
      · refine transfer.ordered.imp fun first_le => ?_
        apply div_le_div_of_nonneg_right
        · exact_mod_cast first_le
        · positivity
      · intro value member one last
        rw [List.mem_singleton.mp last]
        rcases List.mem_cons.mp member with rfl | later
        · exact zero_le_one
        · obtain ⟨message, present, rfl⟩ := List.mem_map.mp later
          exact (between message present).2
    · intro value member
      rcases List.mem_append.mp member with front | last
      · rcases List.mem_cons.mp front with rfl | later
        · exact ⟨le_refl 0, zero_le_one⟩
        · obtain ⟨message, present, rfl⟩ := List.mem_map.mp later
          exact between message present
      · rw [List.mem_singleton.mp last]
        exact ⟨zero_le_one, le_refl 1⟩

end DownloadProgress

end AwesomeNetwork
