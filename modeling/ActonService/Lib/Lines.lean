import Mathlib.Data.List.Basic

/-!
# Lines of a byte stream

Messages that are sent one after the other, each with a separator behind it, and what a receiver
gets by splitting the stream at the separators.  The receiver sees the messages that were sent
exactly if no message holds a separator; then, and only then, no message can be taken for
several.

The separator of lines is the newline.  In UTF-8 a byte below 128 stands for a character of that
number and occurs in no longer sequence, so the newlines of the bytes are those of the text.

## Main definitions

* `terminate` — every message with the separator behind it.
* `pieces` — the stream, split at the separators.

## Main results

* `pieces_terminate_iff` — **the messages are read back exactly if none holds a separator.**
* `mem_utf8EncodeChar_iff` — a byte below 128 occurs in the character of its number only.
-/

namespace Lines

/-! ### Splitting -/

section Split

variable {α : Type*} [DecidableEq α]

/-- Every message with the separator behind it. -/
def terminate (sep : α) (messages : List (List α)) : List α :=
  messages.flatMap fun m => m ++ [sep]

/-- The pieces of a stream that end at a separator.  What stands behind the last separator is no
piece yet. -/
def pieces (sep : α) (stream : List α) : List (List α) := (stream.splitOn sep).dropLast

/-- A split stream holds no separator any more. -/
theorem notMem_of_mem_splitOn {sep : α} {stream piece : List α}
    (h : piece ∈ stream.splitOn sep) : sep ∉ piece := by
  induction stream generalizing piece with
  | nil =>
    rw [List.splitOn_nil, List.mem_singleton] at h
    rw [h]
    exact List.not_mem_nil
  | cons x stream ih =>
    rw [List.splitOn_cons_eq_if_modifyHead] at h
    split at h
    · rcases List.mem_cons.mp h with rfl | h
      · exact List.not_mem_nil
      · exact ih h
    · next hx =>
      -- the character joins the first piece of the rest
      cases hrest : stream.splitOn sep with
      | nil => exact absurd hrest (List.splitOn_ne_nil sep stream)
      | cons first others =>
        rw [hrest] at ih h
        rcases List.mem_cons.mp h with rfl | h
        · rw [List.mem_cons, not_or]
          exact ⟨fun heq => hx (by simp [heq]), ih List.mem_cons_self⟩
        · exact ih (List.mem_cons_of_mem _ h)

theorem splitOn_terminate {sep : α} {messages : List (List α)} (h : ∀ m ∈ messages, sep ∉ m) :
    (terminate sep messages).splitOn sep = messages ++ [[]] := by
  induction messages with
  | nil => rfl
  | cons m messages ih =>
    obtain ⟨hm, hrest⟩ := List.forall_mem_cons.mp h
    have hcons : terminate sep (m :: messages) = m ++ sep :: terminate sep messages := by
      simp [terminate]
    rw [hcons, List.splitOn_append_cons_self_of_not_mem hm, ih hrest]
    rfl

/-- **The messages are read back exactly if none holds a separator.** -/
theorem pieces_terminate_iff {sep : α} {messages : List (List α)} :
    pieces sep (terminate sep messages) = messages ↔ ∀ m ∈ messages, sep ∉ m := by
  constructor
  · intro h m hm
    rw [← h] at hm
    exact notMem_of_mem_splitOn (List.dropLast_subset _ hm)
  · intro h
    rw [pieces, splitOn_terminate h, List.dropLast_concat]

end Split

/-! ### Newlines -/

/-- The byte of a line feed. -/
def newline : UInt8 := 10

/-- A byte below 128 occurs in the encoding of the character of its number only. -/
theorem mem_utf8EncodeChar_iff {b : UInt8} (hb : b.toNat < 128) (c : Char) :
    b ∈ String.utf8EncodeChar c ↔ c.toNat = b.toNat := by
  have hc : c.toNat = c.val.toNat := rfl
  have heq : ∀ n < 256, (b = UInt8.ofNat n ↔ b.toNat = n) := by
    intro n hn
    rw [← UInt8.toNat_inj, UInt8.toNat_ofNat_of_lt' hn]
  unfold String.utf8EncodeChar
  dsimp only
  split_ifs with hone htwo hthree
  · rw [List.mem_singleton, heq _ (by omega), hc]
    exact eq_comm
  all_goals
    -- every byte of a longer sequence has its highest bit set
    simp only [List.mem_cons, List.not_mem_nil, or_false]
    repeat rw [heq _ (by omega)]
    omega

/-- The bytes of a text hold a byte below 128 exactly if the text holds its character. -/
theorem mem_toByteArray_iff {b : UInt8} (hb : b.toNat < 128) (s : String) :
    b ∈ s.toByteArray.data.toList ↔ ∃ c ∈ s.toList, c.toNat = b.toNat := by
  have hbytes : s.toByteArray.data.toList = s.toList.flatMap String.utf8EncodeChar := by
    conv_lhs => rw [← String.ofList_toList (s := s), String.toByteArray_ofList]
    simp [List.utf8Encode]
  rw [hbytes, List.mem_flatMap]
  exact exists_congr fun c => and_congr_right fun _ => mem_utf8EncodeChar_iff hb c

/-- The newlines of the bytes of a text are those of the text. -/
theorem newline_mem_toByteArray_iff (s : String) :
    newline ∈ s.toByteArray.data.toList ↔ '\n' ∈ s.toList := by
  rw [mem_toByteArray_iff (by decide)]
  constructor
  · rintro ⟨c, hc, heq⟩
    have hnewline : c = '\n' := Char.ext (UInt32.toNat_inj.mp heq)
    rwa [← hnewline]
  · intro h
    exact ⟨'\n', h, rfl⟩

end Lines
