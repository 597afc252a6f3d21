import Penrose.Separators

/-! `strtok_r`: the pieces between separators, without the empty ones, one call after another. -/

namespace Penrose

variable {α : Type} [DecidableEq α] {separator : α} {text before after : List α}

/-- The next token and what is left after its separator. -/
def strtokR (separator : α) (text : List α) : Option (List α × List α) :=
  match text.dropWhile (· = separator) with
  | [] => none
  | a :: rest => some (beforeSeparator separator (a :: rest), afterSeparator separator (a :: rest))

/-- The tokens of a text. -/
def tokens (separator : α) (text : List α) : List (List α) := (text.splitOn separator).filter (· ≠ [])

theorem tokens_nil : tokens separator ([] : List α) = [] := by
  rw [tokens, List.splitOn_nil]
  rfl

/-- A piece that is not empty is a token, and the tokens after it follow. -/
theorem tokens_append_cons (hbefore : separator ∉ before) :
    tokens separator (before ++ separator :: after) =
      if before = [] then tokens separator after else before :: tokens separator after := by
  rw [tokens, List.splitOn_append_cons_self_of_not_mem hbefore, List.filter_cons]
  split_ifs with h h' h' <;> simp_all [tokens]

theorem tokens_of_notMem (htext : separator ∉ text) : tokens separator text = if text = [] then [] else [text] := by
  rw [tokens, List.splitOn_eq_singleton htext]
  split_ifs with hempty
  · rw [hempty]
    rfl
  · exact List.filter_cons_of_pos (by simpa using hempty)

theorem tokens_cons_separator : tokens separator (separator :: text) = tokens separator text :=
  have hnone : separator ∉ ([] : List α) := List.not_mem_nil
  (tokens_append_cons hnone).trans (if_pos rfl)

theorem tokens_dropWhile (text : List α) :
    tokens separator (text.dropWhile (· = separator)) = tokens separator text := by
  induction text with
  | nil => rfl
  | cons a rest ih =>
      by_cases heq : a = separator
      · rw [heq, List.dropWhile_cons_of_pos (by simp), ih, tokens_cons_separator]
      · rw [List.dropWhile_cons_of_neg (by simpa using heq)]

/-- The calls of `strtok_r` give the tokens one by one. -/
theorem tokens_eq (separator : α) (text : List α) :
    tokens separator text =
      match strtokR separator text with
      | none => []
      | some (token, rest) => token :: tokens separator rest := by
  rw [strtokR, ← tokens_dropWhile]
  cases hdrop : text.dropWhile (· = separator) with
  | nil => exact tokens_nil
  | cons a rest =>
      have hne : a ≠ separator := by
        have hhead := List.head?_dropWhile_not (fun b => decide (b = separator)) text
        rw [hdrop] at hhead
        simpa using hhead
      by_cases hmem : separator ∈ a :: rest
      · obtain ⟨before, after, heq, hbefore⟩ := List.eq_append_cons_of_mem hmem
        have hnonempty : before ≠ [] := by
          intro hempty
          rw [hempty, List.nil_append] at heq
          exact hne (List.cons.inj heq).1
        simp only [heq]
        rw [tokens_append_cons hbefore, if_neg hnonempty, beforeSeparator_append hbefore,
          afterSeparator_append hbefore]
      · simp only
        rw [tokens_of_notMem hmem, if_neg (List.cons_ne_nil a rest), beforeSeparator_of_notMem hmem,
          afterSeparator_of_notMem hmem, tokens_nil]

/-- What is left is shorter than the text. -/
theorem length_lt_of_strtokR {token rest : List α} (h : strtokR separator text = some (token, rest)) :
    rest.length < text.length := by
  rw [strtokR] at h
  cases hdrop : text.dropWhile (· = separator) with
  | nil =>
      rw [hdrop] at h
      cases h
  | cons a later =>
      rw [hdrop] at h
      have hshort : (a :: later).length ≤ text.length := hdrop ▸ (List.dropWhile_suffix _).length_le
      have hrest : rest = ((a :: later).dropWhile (· ≠ separator)).drop 1 := by
        cases h
        rfl
      have hdropped : ((a :: later).dropWhile (· ≠ separator)).length ≤ (a :: later).length :=
        (List.dropWhile_suffix _).length_le
      rw [hrest, List.length_drop]
      rw [List.length_cons] at hshort hdropped
      omega

end Penrose
