import Colloquy.Dialogue.Composer
import Colloquy.Proofs.Url.Form
import Mathlib.Data.List.Infix

/-!
The address of a composer is its template with the first placeholder filled.  Free text cannot get
out of there: all around it stays as written, and the text can be read back from what stands there.
-/

namespace Colloquy.Composer

def placeholder : List Char := ['%', 's']

theorem fill_placeholder (filling rest : List Char) :
    fill filling (placeholder ++ rest) = filling ++ rest := by
  change fill filling ('%' :: 's' :: rest) = _
  rw [fill]

theorem fill_cons {c : Char} {rest : List Char} (h : ¬ placeholder <+: c :: rest)
    (filling : List Char) : fill filling (c :: rest) = c :: fill filling rest := by
  rw [fill]
  rintro more rfl rfl
  exact h ⟨more, rfl⟩

theorem fill_of_not_infix {cs : List Char} (h : ¬ placeholder <:+: cs) (filling : List Char) :
    fill filling cs = cs := by
  induction cs with
  | nil => rfl
  | cons c rest ih =>
      rw [List.infix_cons_iff, not_or] at h
      rw [fill_cons h.1, ih h.2]

/-- No placeholder begins in front of one and ends in it. -/
theorem prefix_of_prefix_append {front back : List Char}
    (h : placeholder <+: front ++ (placeholder ++ back)) (hne : front ≠ []) :
    placeholder <+: front := by
  match front, hne with
  | [c], _ =>
      obtain ⟨more, heq⟩ := h
      simp [placeholder] at heq
  | c :: d :: rest, _ =>
      obtain ⟨more, heq⟩ := h
      simp only [placeholder, List.cons_append, List.nil_append, List.cons.injEq] at heq
      obtain ⟨rfl, rfl, _⟩ := heq
      exact ⟨rest, rfl⟩

theorem fill_append {front : List Char} (h : ¬ placeholder <:+: front) (filling back : List Char) :
    fill filling (front ++ (placeholder ++ back)) = front ++ (filling ++ back) := by
  induction front with
  | nil => exact fill_placeholder filling back
  | cons c front ih =>
      have hbegin : ¬ placeholder <+: c :: (front ++ (placeholder ++ back)) := fun hbegin =>
        h (prefix_of_prefix_append hbegin (List.cons_ne_nil c front)).isInfix
      rw [List.infix_cons_iff, not_or] at h
      rw [List.cons_append, fill_cons hbegin, ih h.2, List.cons_append]

theorem exists_first_placeholder {cs : List Char} (h : placeholder <:+: cs) :
    ∃ front back, cs = front ++ (placeholder ++ back) ∧ ¬ placeholder <:+: front := by
  induction cs with
  | nil => exact absurd (List.infix_nil.mp h) (by decide)
  | cons c rest ih =>
      by_cases hbegin : placeholder <+: c :: rest
      · obtain ⟨back, hback⟩ := hbegin
        exact ⟨[], back, hback.symm, by decide⟩
      · obtain ⟨front, back, rfl, hfirst⟩ := ih ((List.infix_cons_iff.mp h).resolve_left hbegin)
        refine ⟨c :: front, back, rfl, fun hinfix => ?_⟩
        rcases List.infix_cons_iff.mp hinfix with hbegins | hlater
        · exact hbegin (hbegins.trans (List.prefix_append (c :: front) (placeholder ++ back)))
        · exact hfirst hlater

/-- A template cut at its first placeholder. -/
structure CutAt (template front back : String) : Prop where
  written : template = front ++ "%s" ++ back
  first : ¬ placeholder <:+: front.toList

theorem exists_cutAt {template : String} (h : placeholder <:+: template.toList) :
    ∃ front back, CutAt template front back := by
  obtain ⟨front, back, hchars, hfirst⟩ := exists_first_placeholder h
  refine ⟨String.ofList front, String.ofList back, String.toList_inj.mp ?_, ?_⟩
  · simp only [hchars, String.toList_append, String.toList_ofList, List.append_assoc]
    rfl
  · rwa [String.toList_ofList]

theorem CutAt.url_eq {template front back : String} (h : CutAt template front back)
    (text : String) : url template text = front ++ Url.Form.encodeText text ++ back := by
  apply String.toList_inj.mp
  have hchars : template.toList = front.toList ++ (placeholder ++ back.toList) := by
    rw [h.written, String.toList_append, String.toList_append, List.append_assoc]
    rfl
  rw [url, String.toList_ofList, hchars, fill_append h.first, String.toList_append,
    String.toList_append, List.append_assoc, Url.Form.encodeText, String.toList_ofList]

theorem decodeChars_encodeText (text : String) :
    Url.Form.decodeChars (Url.Form.encodeText text).toList = text := by
  rw [Url.Form.encodeText, String.toList_ofList, Url.Form.decodeChars_encodeChars,
    String.ofList_toList]

theorem CutAt.url_injective {template front back : String} (h : CutAt template front back) :
    Function.Injective (url template) := by
  intro text other heq
  have hchars := congrArg String.toList heq
  simp only [h.url_eq, String.toList_append, List.append_cancel_right_eq,
    List.append_cancel_left_eq] at hchars
  rw [← decodeChars_encodeText text, ← decodeChars_encodeText other, hchars]

theorem url_of_not_infix {template : String} (h : ¬ placeholder <:+: template.toList)
    (text : String) : url template text = template := by
  rw [url, fill_of_not_infix h, String.ofList_toList]

theorem exists_cutAt_iff {template : String} :
    (∃ front back, CutAt template front back) ↔ placeholder <:+: template.toList := by
  constructor
  · rintro ⟨front, back, hcut⟩
    refine ⟨front.toList, back.toList, ?_⟩
    rw [hcut.written, String.toList_append, String.toList_append]
    rfl
  · exact exists_cutAt

/-- Free text takes the place of the first placeholder of a template and no more than that, in an
encoding from which it can be read back.  Without a placeholder it has no place at all. -/
theorem url_confines (template : String) :
    ((∃ front back, CutAt template front back) ↔ placeholder <:+: template.toList) ∧
      (∀ front back, CutAt template front back →
        (∀ text, ∃ encoded : String, url template text = front ++ encoded ++ back ∧
          Url.Form.IsEncoded encoded.toList ∧ Url.Form.decodeChars encoded.toList = text) ∧
        Function.Injective (url template)) ∧
      (¬ placeholder <:+: template.toList → ∀ text, url template text = template) := by
  refine ⟨exists_cutAt_iff, fun front back hcut => ⟨fun text => ?_, hcut.url_injective⟩,
    url_of_not_infix⟩
  refine ⟨Url.Form.encodeText text, hcut.url_eq text, ?_, decodeChars_encodeText text⟩
  rw [Url.Form.encodeText, String.toList_ofList]
  exact Url.Form.isEncoded_encodeChars text.toList

/-- A template with two placeholders, and one without. -/
theorem url_confines_two :
    CutAt "http://c.local/reply?q=%s&r=%s" "http://c.local/reply?q=" "&r=%s" ∧
      (∃ encoded : String, url "http://c.local/reply?q=%s&r=%s" "%s & \u00fc" =
          "http://c.local/reply?q=" ++ encoded ++ "&r=%s" ∧
        Url.Form.IsEncoded encoded.toList ∧
        Url.Form.decodeChars encoded.toList = "%s & \u00fc") ∧
      ¬ placeholder <:+: "http://c.local/static".toList ∧
      url "http://c.local/static" "x" = "http://c.local/static" := by
  have hcut : CutAt "http://c.local/reply?q=%s&r=%s" "http://c.local/reply?q=" "&r=%s" :=
    ⟨by decide, by decide⟩
  have hplain : ¬ placeholder <:+: "http://c.local/static".toList := by decide
  exact ⟨hcut, ((url_confines _).2.1 _ _ hcut).1 _, hplain, (url_confines _).2.2 hplain _⟩

end Colloquy.Composer
