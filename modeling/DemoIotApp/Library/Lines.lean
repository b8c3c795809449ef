import Mathlib.Data.List.Basic
import Mathlib.Tactic.Common

/-!
# Texts made of lines

A line is a head of a fixed width, a body and a separator. The head never holds the
separator, the body may.
-/

namespace DemoIotApp.Library

structure LineFormat (α : Type*) where
  separator : α
  width : ℕ
  /-- What a line may begin with. -/
  IsHead : List α → Prop
  length_head : ∀ {head}, IsHead head → head.length = width
  separator_notMem : ∀ {head}, IsHead head → separator ∉ head

namespace LineFormat

variable {α : Type*} (F : LineFormat α)

/-- The text of a line that is given by its head and its body. -/
def line (l : List α × List α) : List α := l.1 ++ (l.2 ++ [F.separator])

def text (lines : List (List α × List α)) : List α := lines.flatMap F.line

/-- The body goes on, behind a separator, as another line begins. -/
def Embeds (body : List α) : Prop :=
  ∃ before head after, F.IsHead head ∧ body = before ++ F.separator :: (head ++ after)

structure Plain (l : List α × List α) : Prop where
  head : F.IsHead l.1
  body : ¬F.Embeds l.2

@[simp] theorem text_nil : F.text [] = [] := rfl

theorem text_cons (l : List α × List α) (lines : List (List α × List α)) :
    F.text (l :: lines) = l.1 ++ (l.2 ++ F.separator :: F.text lines) := by
  simp [text, line]

variable {F}

theorem not_embeds_of_notMem {body : List α} (h : F.separator ∉ body) : ¬F.Embeds body := by
  rintro ⟨before, head, after, -, rfl⟩
  simp at h

/-- A line whose body embeds a head is the text of two lines. -/
theorem text_embedded (head before head' after : List α) :
    F.text [(head, before ++ F.separator :: (head' ++ after))] =
      F.text [(head, before), (head', after)] := by
  simp [text_cons]

/-- A body that ends where the text of plain lines ends is not continued by that text. -/
theorem eq_nil_of_text_eq {body rest tail : List α} {lines : List (List α × List α)}
    (hbody : ¬F.Embeds (body ++ rest)) (hlines : ∀ l ∈ lines, F.Plain l)
    (h : F.separator :: F.text lines = rest ++ F.separator :: tail) : rest = [] := by
  cases rest with
  | nil => rfl
  | cons c rest =>
      rw [List.cons_append, List.cons.injEq] at h
      obtain ⟨rfl, htext⟩ := h
      cases lines with
      | nil => simp at htext
      | cons l lines =>
          have hhead : F.IsHead l.1 := (hlines l List.mem_cons_self).head
          rw [text_cons, List.append_eq_append_iff] at htext
          rcases htext with ⟨after, rfl, -⟩ | ⟨cut, hcut, hrest⟩
          · -- The head stands whole in the body.
            exact absurd ⟨body, l.1, after, hhead, rfl⟩ hbody
          · -- The head goes beyond the body: then it holds the separator behind it.
            cases cut with
            | nil =>
                refine absurd ⟨body, l.1, [], hhead, ?_⟩ hbody
                simpa using hcut.symm
            | cons c cut =>
                rw [List.cons_append, List.cons.injEq] at hrest
                refine absurd ?_ (F.separator_notMem hhead)
                simp [hcut, hrest.1]

/-- Plain lines can be read back from their text. -/
theorem text_injective {lines lines' : List (List α × List α)} (h : ∀ l ∈ lines, F.Plain l)
    (h' : ∀ l ∈ lines', F.Plain l) (htext : F.text lines = F.text lines') : lines = lines' := by
  induction lines generalizing lines' with
  | nil =>
      cases lines' with
      | nil => rfl
      | cons l' lines' => simp [text_cons] at htext
  | cons l lines ih =>
      cases lines' with
      | nil => simp [text_cons] at htext
      | cons l' lines' =>
          rw [List.forall_mem_cons] at h h'
          rw [text_cons, text_cons] at htext
          have hwidth : l.1.length = l'.1.length :=
            (F.length_head h.1.head).trans (F.length_head h'.1.head).symm
          obtain ⟨hhead, hrest⟩ := List.append_inj htext hwidth
          have hbody : l.2 = l'.2 := by
            rcases List.append_eq_append_iff.mp hrest with ⟨rest, hl', hsep⟩ | ⟨rest, hl, hsep⟩
            · have hrest : rest = [] := eq_nil_of_text_eq (hl' ▸ h'.1.body) h.2 hsep
              simpa [hrest] using hl'.symm
            · have hrest : rest = [] := eq_nil_of_text_eq (hl ▸ h.1.body) h'.2 hsep
              simpa [hrest] using hl
          have hlines : F.text lines = F.text lines' := by
            rw [hbody] at hrest
            simpa using hrest
          rw [ih h.2 h'.2 hlines, Prod.ext hhead hbody]

end LineFormat

end DemoIotApp.Library
