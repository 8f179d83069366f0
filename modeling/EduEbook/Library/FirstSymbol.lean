import Mathlib.Data.List.TakeWhile

/-!
# Splitting a list at the first occurrence of a symbol

`takeWhile` and `dropWhile` part a list in front of the first occurrence of a symbol.
Stripping tags and reading the parts of a url both split this way.
-/

namespace EduEbook.FirstSymbol

variable {Symbol : Type*} [DecidableEq Symbol] {symbol : Symbol}

theorem takeWhile_ne {left : List Symbol} (hleft : symbol ∉ left) (right : List Symbol) :
    ((left ++ symbol :: right).takeWhile fun other => other ≠ symbol) = left := by
  rw [List.takeWhile_append_of_pos, List.takeWhile_cons_of_neg (by simp), List.append_nil]
  intro other hother
  exact decide_eq_true fun heq : other = symbol => hleft (heq ▸ hother)

theorem dropWhile_ne {left : List Symbol} (hleft : symbol ∉ left) (right : List Symbol) :
    ((left ++ symbol :: right).dropWhile fun other => other ≠ symbol) = symbol :: right := by
  rw [List.dropWhile_append_of_pos, List.dropWhile_cons_of_neg (by simp)]
  intro other hother
  exact decide_eq_true fun heq : other = symbol => hleft (heq ▸ hother)

theorem takeWhile_ne_of_notMem {text : List Symbol} (htext : symbol ∉ text) :
    (text.takeWhile fun other => other ≠ symbol) = text := by
  apply List.takeWhile_eq_self_iff.2
  intro other hother
  exact decide_eq_true fun heq : other = symbol => htext (heq ▸ hother)

theorem dropWhile_ne_of_notMem {text : List Symbol} (htext : symbol ∉ text) :
    (text.dropWhile fun other => other ≠ symbol) = [] := by
  apply List.dropWhile_eq_nil_iff.2
  intro other hother
  exact decide_eq_true fun heq : other = symbol => htext (heq ▸ hother)

end EduEbook.FirstSymbol
