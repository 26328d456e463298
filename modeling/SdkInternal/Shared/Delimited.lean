import Mathlib.Data.List.DropRight

/-! # Lists of parts between separators

A list is cut at its separators, and each part is trimmed of blanks at both ends. Parts that are
empty are dropped. -/

namespace SdkInternal.Shared.Delimited

open List

variable {α : Type*} (blank : α → Bool)

def trim (part : List α) : List α := (part.dropWhile blank).rdropWhile blank

variable (part : List α)

theorem trim_sublist : (trim blank part).Sublist part := by
  have hstart := rdropWhile_prefix blank (part.dropWhile blank)
  exact hstart.sublist.trans (dropWhile_sublist blank)

theorem dropWhile_trim : (trim blank part).dropWhile blank = trim blank part := by
  rw [dropWhile_eq_self_iff]
  intro hlength
  have hstart := rdropWhile_prefix blank (part.dropWhile blank)
  have hdropped := dropWhile_eq_self_iff.mp (dropWhile_idempotent blank part)
  have hremains := hlength.trans_le hstart.length_le
  have hfirst : (trim blank part)[0] = (part.dropWhile blank)[0] := hstart.getElem hlength
  rw [hfirst]
  exact hdropped hremains

theorem trim_trim : trim blank (trim blank part) = trim blank part := by
  rw [trim, dropWhile_trim, trim, rdropWhile_idempotent]

variable [BEq α] [LawfulBEq α] (separator : α)

def parts (list : List α) : List (List α) :=
  ((list.splitOn separator).map (trim blank)).filter (!·.isEmpty)

def join (parts : List (List α)) : List α := [separator].intercalate parts

theorem notMem_of_mem_splitOn {list part : List α} (h : part ∈ list.splitOn separator) :
    separator ∉ part := by
  induction list generalizing part with
  | nil =>
    rw [splitOn_nil, mem_singleton] at h
    simp [h]
  | cons x list ih =>
    rw [splitOn_eq_splitOnP, splitOnP_cons_eq_if_modifyHead, ← splitOn_eq_splitOnP] at h
    split at h
    case isTrue =>
      obtain rfl | hrest := mem_cons.mp h
      · exact not_mem_nil
      · exact ih hrest
    case isFalse hx =>
      obtain ⟨first, rest, hsplit⟩ := exists_cons_of_ne_nil
        (splitOn_ne_nil separator list)
      rw [hsplit] at h
      obtain rfl | hrest := mem_cons.mp h
      · rw [mem_cons, not_or]
        exact ⟨fun heq => hx (by simp [heq]), ih (by simp [hsplit])⟩
      · exact ih (by simp [hsplit, hrest])

theorem mem_parts {list part : List α} (h : part ∈ parts blank separator list) :
    separator ∉ part ∧ trim blank part = part ∧ part ≠ [] := by
  obtain ⟨hmem, hne⟩ := mem_filter.mp h
  obtain ⟨piece, hpiece, rfl⟩ := mem_map.mp hmem
  refine ⟨?_, trim_trim blank piece, by simpa using hne⟩
  intro hseparator
  exact notMem_of_mem_splitOn separator hpiece ((trim_sublist blank piece).mem hseparator)

theorem parts_join_parts (list : List α) :
    parts blank separator (join separator (parts blank separator list)) =
      parts blank separator list := by
  by_cases hempty : parts blank separator list = []
  · rw [hempty]
    simp [join, parts, trim]
  · have hsplit : (join separator (parts blank separator list)).splitOn separator =
        parts blank separator list :=
      splitOn_intercalate separator
        (fun part hpart => (mem_parts blank separator hpart).1) hempty
    have htrimmed : (parts blank separator list).map (trim blank) = parts blank separator list := by
      rw [map_congr_left (fun part hpart => (mem_parts blank separator hpart).2.1), map_id']
    rw [parts, hsplit, htrimmed, filter_eq_self]
    intro part hpart
    have hne := (mem_parts blank separator hpart).2.2
    simpa using hne

end SdkInternal.Shared.Delimited
