import Mathlib.Data.List.Basic

/-!
# Replacing the matches of a pattern

A pattern is a sequence of classes of symbols, each taken once or as often as
possible.  The matcher backtracks: a repeated class gives symbols back when what
follows it does not match.  If what follows cannot begin with a symbol of the class,
there is nothing to give back, and the class takes exactly the symbols in front
that belong to it.
-/

namespace EduEbook.TextPattern

variable {Symbol : Type*}

inductive Item (Symbol : Type*)
  | one (accepts : Symbol → Bool)
  | many (accepts : Symbol → Bool)

/-- The length of the preferred match of a repeated class with what follows it. -/
def greedy (accepts : Symbol → Bool) (next : List Symbol → Option ℕ) :
    List Symbol → Option ℕ
  | [] => next []
  | symbol :: text =>
      if accepts symbol then
        ((greedy accepts next text).map (· + 1)).or (next (symbol :: text))
      else next (symbol :: text)

def single (accepts : Symbol → Bool) (next : List Symbol → Option ℕ) :
    List Symbol → Option ℕ
  | [] => none
  | symbol :: text => if accepts symbol then (next text).map (· + 1) else none

/-- The length of the match at the start of a text. -/
def matchLength : List (Item Symbol) → List Symbol → Option ℕ
  | [] => fun _ => some 0
  | .one accepts :: pattern => single accepts (matchLength pattern)
  | .many accepts :: pattern => greedy accepts (matchLength pattern)

/-- Replace the matches from left to right; the first argument is the number of
symbols of the last match that are still to be passed over. -/
def replaceFrom (pattern : List (Item Symbol)) (replacement : List Symbol) :
    ℕ → List Symbol → List Symbol
  | skip, [] =>
      if skip = 0 ∧ (matchLength pattern []).isSome then replacement else []
  | skip + 1, _ :: text => replaceFrom pattern replacement skip text
  | 0, symbol :: text =>
      match matchLength pattern (symbol :: text) with
      | none => symbol :: replaceFrom pattern replacement 0 text
      | some 0 => replacement ++ symbol :: replaceFrom pattern replacement 0 text
      | some (length + 1) =>
          replacement ++ replaceFrom pattern replacement length text

def replaceAll (pattern : List (Item Symbol)) (replacement : List Symbol)
    (text : List Symbol) : List Symbol :=
  replaceFrom pattern replacement 0 text

/-- A class that what follows cannot begin with is taken as a whole. -/
theorem greedy_of_disjoint {accepts : Symbol → Bool} {next : List Symbol → Option ℕ}
    (hnext : ∀ symbol text, accepts symbol = true → next (symbol :: text) = none)
    (text : List Symbol) :
    greedy accepts next text =
      (next (text.dropWhile accepts)).map (· + (text.takeWhile accepts).length) := by
  induction text with
  | nil => simp [greedy]
  | cons symbol text ih =>
      by_cases hsymbol : accepts symbol = true
      · rw [greedy, if_pos hsymbol, hnext symbol text hsymbol, Option.or_none, ih,
          List.dropWhile_cons_of_pos hsymbol, List.takeWhile_cons_of_pos hsymbol,
          Option.map_map]
        congr 1
      · rw [greedy, if_neg hsymbol, List.dropWhile_cons_of_neg hsymbol,
          List.takeWhile_cons_of_neg hsymbol]
        simp

/-- Symbols of a match that are still to be passed over are dropped. -/
theorem replaceFrom_eq_drop (pattern : List (Item Symbol)) (replacement : List Symbol)
    {skip : ℕ} {text : List Symbol} (hskip : skip ≤ text.length) :
    replaceFrom pattern replacement skip text =
      replaceAll pattern replacement (text.drop skip) := by
  induction skip generalizing text with
  | zero => rfl
  | succ skip ih =>
      cases text with
      | nil => cases hskip
      | cons symbol text =>
          exact ih (Nat.le_of_succ_le_succ hskip)

end EduEbook.TextPattern
