import Mathlib.Data.List.DropRight
import CashShop.Text

namespace CashShop.Text

structure Trimmed (cs : List Char) : Prop where
  head : ∀ c, cs.head? = some c → isBlank c = false
  last : ∀ c, cs.getLast? = some c → isBlank c = false

variable {cs : List Char} {c d : Char}

theorem trimLeft_of_head (h : ∀ c, cs.head? = some c → isBlank c = false) : trimLeft cs = cs := by
  cases cs with
  | nil => rfl
  | cons c cs => exact List.dropWhile_cons_of_neg (by simp [h c rfl])

theorem trimRight_of_last (h : ∀ c, cs.getLast? = some c → isBlank c = false) : trimRight cs = cs := by
  have hreverse : trimLeft cs.reverse = cs.reverse := by
    apply trimLeft_of_head
    rwa [List.head?_reverse]
  rw [trimRight, ← trimLeft, hreverse, List.reverse_reverse]

theorem Trimmed.trimChars_eq (h : Trimmed cs) : trimChars cs = cs := by
  rw [trimChars, trimLeft_of_head h.head, trimRight_of_last h.last]

theorem head_trimLeft (cs : List Char) : ∀ c, (trimLeft cs).head? = some c → isBlank c = false := by
  intro c hc
  have hfirst := List.head?_dropWhile_not isBlank cs
  rw [trimLeft] at hc
  rwa [hc] at hfirst

theorem trimmed_trimChars (cs : List Char) : Trimmed (trimChars cs) := by
  constructor
  · intro c hc
    have hprefix : trimChars cs <+: trimLeft cs := List.rdropWhile_prefix isBlank _
    apply head_trimLeft cs c
    obtain ⟨rest, hrest⟩ := hprefix
    rw [← hrest, List.head?_append, hc]
    rfl
  · intro c hc
    rw [trimChars, trimRight, List.getLast?_reverse] at hc
    exact head_trimLeft _ c hc

theorem trimLeft_append_of_blank {pre : List Char} (h : ∀ c ∈ pre, isBlank c = true) (cs : List Char) :
    trimLeft (pre ++ cs) = trimLeft cs := List.dropWhile_append_of_pos h

theorem trimRight_append_of_blank {post : List Char} (h : ∀ c ∈ post, isBlank c = true) (cs : List Char) :
    trimRight (cs ++ post) = trimRight cs := by
  have hreverse : ∀ c ∈ post.reverse, isBlank c = true := fun c hc => h c (List.mem_reverse.1 hc)
  rw [trimRight, List.reverse_append, List.dropWhile_append_of_pos hreverse, trimRight]

theorem trimChars_append_of_blank {post : List Char} (h : ∀ c ∈ post, isBlank c = true) (cs : List Char) :
    trimChars (cs ++ post) = trimChars cs := by
  rw [trimChars, trimLeft, List.dropWhile_append]
  split
  case isTrue hempty =>
    rw [List.dropWhile_eq_nil_iff.2 h, trimChars, trimLeft, List.isEmpty_iff.1 hempty]
  case isFalse => exact trimRight_append_of_blank h _

theorem trimChars_padded {pre post : List Char} (hpre : ∀ c ∈ pre, isBlank c = true)
    (hpost : ∀ c ∈ post, isBlank c = true) (h : Trimmed cs) : trimChars (pre ++ cs ++ post) = cs := by
  rw [trimChars_append_of_blank hpost, trimChars, trimLeft_append_of_blank hpre, ← trimChars, h.trimChars_eq]

end CashShop.Text
