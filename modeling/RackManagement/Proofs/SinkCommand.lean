import RackManagement.Library.ShellWords
import RackManagement.Model.ScpTransfer

/-!
# The words of the sink command

A shell splits the sink command into three words, and no character of the path has a meaning to it.
-/

namespace RackManagement.Scp

open Library ShellWords

variable (remotePath : String)

/-- What the command is to copy to. -/
def sinkTarget : List Char :=
  if startsWith "-" remotePath then '.' :: '/' :: remotePath.toList else remotePath.toList

def quoteChar (c : Char) : List Char := if c = '\'' then ['\'', '"', '\'', '"', '\''] else [c]

lemma toList_scpSinkCommand : (scpSinkCommand remotePath).toList =
      "scp -t '".toList ++ ((sinkTarget remotePath).flatMap quoteChar ++ ['\'']) := by
  have hquote : (fun c => if c = '\'' then "'\"'\"'".toList else [c]) = quoteChar := rfl
  unfold scpSinkCommand sinkTarget
  rw [hquote]
  by_cases h : startsWith "-" remotePath
  · simp [h, toString, quoteChar]
  · simp [h, toString]

lemma foldl_step_quoteChar (c : Char) (chars : List ShellChar) (tokens : List Token) :
    (quoteChar c).foldl State.step ⟨.singleQuoted, some chars, tokens⟩ =
      ⟨.singleQuoted, some (chars ++ [.literal c]), tokens⟩ := by
  by_cases hc : c = '\''
  · -- the quote is closed, written between double quotes, and opened again
    subst hc
    simp [quoteChar, State.step, State.push, isExpansion]
  · rw [quoteChar, if_neg hc, List.foldl_cons, step_singleQuoted hc, List.foldl_nil]

lemma foldl_step_quoted (target : List Char) (chars : List ShellChar) (tokens : List Token) :
    (target.flatMap quoteChar).foldl State.step ⟨.singleQuoted, some chars, tokens⟩ =
      ⟨.singleQuoted, some (chars ++ target.map .literal), tokens⟩ := by
  induction target generalizing chars with
  | nil => simp
  | cons c target ih =>
    rw [List.flatMap_cons, List.foldl_append, foldl_step_quoteChar, ih]
    simp

lemma head?_sinkTarget : (sinkTarget remotePath).head? ≠ some '-' := by
  unfold sinkTarget
  by_cases h : startsWith "-" remotePath
  · simp [h]
  · intro hhead
    obtain ⟨rest, hrest⟩ := List.head?_eq_some_iff.mp hhead
    simp [h] at hrest
    simp [startsWith, hrest] at h

/-- The shell reads the command as three words, whatever the remote path contains. -/
theorem split_sink_command (remotePath : String) :
    split (scpSinkCommand remotePath).toList =
        some [literalWord "scp".toList, literalWord "-t".toList, literalWord (sinkTarget remotePath)] ∧
      (sinkTarget remotePath).head? ≠ some '-' := by
  have hopening : "scp -t '".toList.foldl State.step ⟨.unquoted, none, []⟩ =
      ⟨.singleQuoted, some [], [literalWord "scp".toList, literalWord "-t".toList]⟩ := by decide
  refine ⟨?_, head?_sinkTarget remotePath⟩
  rw [toList_scpSinkCommand]
  unfold split
  rw [List.foldl_append, List.foldl_append, hopening, foldl_step_quoted]
  simp [State.step, State.finish, State.close, literalWord]

end RackManagement.Scp
