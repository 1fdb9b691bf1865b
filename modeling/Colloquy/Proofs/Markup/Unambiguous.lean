import Colloquy.Proofs.Markup.Source
import Mathlib.Data.List.TakeWhile

/-!
A source has one reading: whatever two readings make of the same text, they make the same parts of
it and leave the same rest.
-/

namespace Colloquy.Markup

section

variable {a b s t : List Char}

/-- Where a run of characters of one kind ends, if it goes as far as it can. -/
theorem run_unique {p : Char → Bool} (ha : ∀ c ∈ a, p c = true) (hb : ∀ c ∈ b, p c = true)
    (hs : ∀ c ∈ s.head?, p c = false) (ht : ∀ c ∈ t.head?, p c = false) (h : a ++ s = b ++ t) :
    a = b ∧ s = t := by
  have htake : ∀ {run rest : List Char}, (∀ c ∈ run, p c = true) →
      (∀ c ∈ rest.head?, p c = false) → (run ++ rest).takeWhile p = run := by
    intro run rest hrun hrest
    rw [List.takeWhile_append_of_pos hrun]
    cases rest with
    | nil => simp
    | cons c rest => simp [hrest c rfl]
  have hab : a = b := by rw [← htake ha hs, h, htake hb ht]
  subst hab
  exact ⟨rfl, List.append_cancel_left h⟩

/-- Where a character comes for the first time, or the text ends. -/
theorem cut_unique {c : Char} (ha : c ∉ a) (hb : c ∉ b) (hs : ∀ d ∈ s.head?, d = c)
    (ht : ∀ d ∈ t.head?, d = c) (h : a ++ s = b ++ t) : a = b ∧ s = t :=
  run_unique (p := fun d => decide (d ≠ c))
    (fun _ hd => decide_eq_true (ne_of_mem_of_not_mem hd ha))
    (fun _ hd => decide_eq_true (ne_of_mem_of_not_mem hd hb))
    (fun d hd => decide_eq_false (not_not_intro (hs d hd)))
    (fun d hd => decide_eq_false (not_not_intro (ht d hd))) h

/-- Where a mark comes for the first time. -/
theorem mark_unique {mark : String} (ha : Part.Stops mark a) (hb : Part.Stops mark b)
    (h : a ++ (mark.toList ++ s) = b ++ (mark.toList ++ t)) : a = b ∧ s = t := by
  have hle : ∀ {a b s t : List Char}, Part.Stops mark b →
      a ++ (mark.toList ++ s) = b ++ (mark.toList ++ t) → b.length ≤ a.length := by
    intro a b s t hb h
    by_contra hlt
    rw [Nat.not_le] at hlt
    refine hb a.length hlt ?_
    have hdrop := congrArg (List.drop a.length) h
    rw [List.drop_left, ← List.append_assoc, List.drop_append_of_le_length
      (by rw [List.length_append]; omega)] at hdrop
    refine List.prefix_of_prefix_length_le (List.prefix_append _ s)
      (hdrop ▸ List.prefix_append _ t) ?_
    rw [List.length_drop, List.length_append]
    omega
  have hlength := Nat.le_antisymm (hle ha h.symm) (hle hb h)
  obtain ⟨hab, hrest⟩ := List.append_inj h hlength
  exact ⟨hab, List.append_cancel_left hrest⟩

end

/-!
References and runs.
-/

/-- What a reference stands for, told from what is between its ampersand and its semicolon. -/
def referred? : List Char → Option Char
  | '#' :: 'x' :: digits => some (characterOfCode (numberIn 16 digits))
  | '#' :: digits => some (characterOfCode (numberIn 10 digits))
  | name => namedCharacter? (String.ofList name)

theorem exists_body_of_isReference {reference : List Char} {c : Char}
    (h : IsReference reference c) :
    ∃ body, reference = '&' :: (body ++ [';']) ∧ ';' ∉ body ∧ referred? body = some c := by
  cases h with
  | named known =>
    refine ⟨_, rfl, ?_, ?_⟩ <;> unfold namedCharacter? at known <;> split at known
    all_goals cases known
    all_goals decide
  | @decimal digits filled digit =>
    refine ⟨'#' :: digits, rfl, ?_, ?_⟩
    · rw [List.mem_cons, not_or]
      exact ⟨by decide, fun hmem => Bool.false_ne_true (digit ';' hmem)⟩
    · cases digits with
      | nil => exact absurd rfl filled
      | cons d digits =>
        unfold referred?
        split
        · next heq =>
          obtain ⟨-, hdigits⟩ := List.cons.inj heq
          obtain ⟨rfl, -⟩ := List.cons.inj hdigits
          exact absurd (digit 'x' List.mem_cons_self) (by decide)
        · next heq =>
          rw [(List.cons.inj heq).2]
        · next hnone => exact absurd rfl (hnone _)
  | @hexadecimal digits filled digit =>
    refine ⟨'#' :: 'x' :: digits, rfl, ?_, rfl⟩
    rw [List.mem_cons, List.mem_cons, not_or, not_or]
    exact ⟨by decide, by decide, fun hmem => Bool.false_ne_true (digit ';' hmem)⟩

theorem reference_unique {r r' x y : List Char} {c c' : Char} (h : IsReference r c)
    (h' : IsReference r' c') (heq : r ++ x = r' ++ y) : r = r' ∧ c = c' ∧ x = y := by
  obtain ⟨body, rfl, hbody, hc⟩ := exists_body_of_isReference h
  obtain ⟨body', rfl, hbody', hc'⟩ := exists_body_of_isReference h'
  have hstrip : body ++ ';' :: x = body' ++ ';' :: y := by simpa using heq
  obtain ⟨rfl, hrest⟩ := cut_unique hbody hbody' (by simp) (by simp) hstrip
  exact ⟨rfl, Option.some.inj (hc.symm.trans hc'), (List.cons.inj hrest).2⟩

theorem resolves_unique {written : List Char} {pieces others : List Piece}
    (h : Resolves written pieces) (h' : Resolves written others) : pieces = others := by
  induction h generalizing others with
  | nil =>
    generalize hwritten : ([] : List Char) = written at h'
    cases h' with
    | nil => rfl
    | literal => cases hwritten
    | referred here =>
      obtain ⟨body, rfl, -, -⟩ := exists_body_of_isReference here
      cases hwritten
  | @literal c run pieces plain rest ih =>
    generalize hwritten : c :: run = written at h'
    cases h' with
    | nil => cases hwritten
    | literal _ rest' =>
      obtain ⟨rfl, rfl⟩ := List.cons.inj hwritten
      rw [ih rest']
    | referred here =>
      obtain ⟨body, rfl, -, -⟩ := exists_body_of_isReference here
      exact absurd (List.cons.inj hwritten).1 plain
  | @referred reference run c pieces here rest ih =>
    generalize hwritten : reference ++ run = written at h'
    cases h' with
    | nil =>
      obtain ⟨body, rfl, -, -⟩ := exists_body_of_isReference here
      cases hwritten
    | literal plain =>
      obtain ⟨body, rfl, -, -⟩ := exists_body_of_isReference here
      exact absurd (List.cons.inj hwritten).1.symm plain
    | referred here' rest' =>
      obtain ⟨-, rfl, rfl⟩ := reference_unique here here' hwritten
      rw [ih rest']

/-!
Tags.
-/

theorem isSpace_eq_false {c : Char} (h : isNameChar c = true) : isSpace c = false := by
  by_contra hspace
  simp only [isSpace, Bool.not_eq_false, Bool.or_eq_true, beq_iff_eq] at hspace
  rcases hspace with ((rfl | rfl) | rfl) | rfl <;> cases h

theorem IsName.head {name : List Char} (h : IsName name) (rest : List Char) :
    ∃ c, (name ++ rest).head? = some c ∧ isNameChar c = true := by
  obtain ⟨hfilled, hchars⟩ := h
  cases name with
  | nil => exact absurd rfl hfilled
  | cons c name => exact ⟨c, rfl, hchars c List.mem_cons_self⟩

section

variable {a b s t : List Char}

theorem forall_head_cons {P : Char → Prop} {c : Char} (h : P c) : ∀ d ∈ (c :: s).head?, P d :=
  fun _ hd => Option.some.inj hd ▸ h

theorem spaces_unique (ha : IsSpaces a) (hb : IsSpaces b) (hs : ∀ c ∈ s.head?, isSpace c = false)
    (ht : ∀ c ∈ t.head?, isSpace c = false) (h : a ++ s = b ++ t) : a = b ∧ s = t :=
  run_unique ha hb hs ht h

theorem name_unique (ha : IsName a) (hb : IsName b) (hs : ∀ c ∈ s.head?, isNameChar c = false)
    (ht : ∀ c ∈ t.head?, isNameChar c = false) (h : a ++ s = b ++ t) : a = b ∧ s = t :=
  run_unique ha.2 hb.2 hs ht h

theorem IsSpaces.head_append (h : IsSpaces a) (hs : ∀ c ∈ s.head?, isNameChar c = false) :
    ∀ c ∈ (a ++ s).head?, isNameChar c = false := by
  cases a with
  | nil => exact hs
  | cons c a =>
    intro d hd
    obtain rfl : c = d := Option.some.inj hd
    by_contra hname
    rw [Bool.not_eq_false] at hname
    exact Bool.false_ne_true ((isSpace_eq_false hname).symm.trans (h c List.mem_cons_self))

theorem attribute_unique (ha : IsAttribute a) (hb : IsAttribute b) (h : a ++ s = b ++ t) :
    a = b ∧ s = t := by
  obtain ⟨named, before, after, quotes, plain⟩ := ha
  obtain ⟨named', before', after', quotes', plain'⟩ := hb
  have hquote : ∀ {quote : Char} {rest : List Char}, quote = '\'' ∨ quote = '"' →
      ∀ c ∈ (quote :: rest).head?, isSpace c = false := by
    rintro quote rest (rfl | rfl) c hc
    all_goals exact Option.some.inj hc ▸ rfl
  simp only [List.append_assoc, List.cons_append] at h
  obtain ⟨rfl, hequals⟩ := name_unique named named'
    (before.head_append (forall_head_cons (by decide)))
    (before'.head_append (forall_head_cons (by decide))) h
  obtain ⟨rfl, hsign⟩ := spaces_unique before before' (forall_head_cons (by decide))
    (forall_head_cons (by decide)) hequals
  obtain ⟨rfl, hvalue⟩ := spaces_unique after after' (hquote quotes) (hquote quotes')
    (List.cons.inj hsign).2
  obtain ⟨rfl, hrun⟩ := List.cons.inj hvalue
  obtain ⟨rfl, hrest⟩ := cut_unique plain.1 plain'.1 (forall_head_cons rfl) (forall_head_cons rfl)
    hrun
  exact ⟨rfl, (List.cons.inj hrest).2⟩

theorem TagEnd.written_head {tagEnd : TagEnd} (h : tagEnd ≠ .cut) (rest : List Char) :
    ∃ c, (tagEnd.written ++ rest).head? = some c ∧ (c = '>' ∨ c = '/') := by
  cases tagEnd with
  | opens => exact ⟨'>', rfl, .inl rfl⟩
  | closes => exact ⟨'/', rfl, .inr rfl⟩
  | cut => exact absurd rfl h

theorem tagEnd_unique {e e' : TagEnd} (he : e ≠ .cut) (he' : e' ≠ .cut)
    (h : e.written ++ s = e'.written ++ t) : e = e' ∧ s = t := by
  cases e <;> cases e' <;> simp_all [TagEnd.written]

theorem IsAttribute.head (h : IsAttribute a) (rest : List Char) :
    ∃ c, (a ++ rest).head? = some c ∧ isNameChar c = true := by
  obtain ⟨named⟩ := h
  rw [List.append_assoc]
  exact named.head _

theorem attributes_unique {e e' : TagEnd} (ha : IsAttributes a) (hb : IsAttributes b)
    (he : e ≠ .cut) (he' : e' ≠ .cut)
    (h : a ++ (e.written ++ s) = b ++ (e'.written ++ t)) : a = b ∧ e = e' ∧ s = t := by
  have hend : ∀ {e : TagEnd} {rest : List Char}, e ≠ .cut →
      ∀ c ∈ (e.written ++ rest).head?, isSpace c = false := by
    intro e rest he c hc
    obtain ⟨d, hd, hends⟩ := TagEnd.written_head he rest
    obtain rfl : c = d := Option.some.inj (hc.symm.trans hd)
    rcases hends with rfl | rfl <;> rfl
  have hfirst : ∀ {first rest : List Char}, IsAttribute first →
      ∀ c ∈ (first ++ rest).head?, isSpace c = false := by
    intro first rest here c hc
    obtain ⟨d, hd, hname⟩ := here.head rest
    obtain rfl : c = d := Option.some.inj (hc.symm.trans hd)
    exact isSpace_eq_false hname
  have hnever : ∀ {first rest text : List Char} {e : TagEnd}, e ≠ .cut → IsAttribute first →
      e.written ++ text ≠ first ++ rest := by
    intro first rest text e he here heq
    obtain ⟨c, hc, hends⟩ := TagEnd.written_head he text
    obtain ⟨d, hd, hname⟩ := here.head rest
    rw [heq, hd] at hc
    obtain rfl := Option.some.inj hc
    rcases hends with rfl | rfl <;> cases hname
  induction ha generalizing b with
  | none spaced =>
    cases hb with
    | none spaced' =>
      obtain ⟨rfl, hrest⟩ := spaces_unique spaced spaced' (hend he) (hend he') h
      exact ⟨rfl, tagEnd_unique he he' hrest⟩
    | one filled spaced' here others =>
      simp only [List.append_assoc] at h
      obtain ⟨rfl, hrest⟩ := spaces_unique spaced spaced' (hend he) (hfirst here) h
      exact absurd hrest (hnever he here)
  | one filled spaced here others ih =>
    cases hb with
    | none spaced' =>
      simp only [List.append_assoc] at h
      obtain ⟨rfl, hrest⟩ := spaces_unique spaced spaced' (hfirst here) (hend he') h
      exact absurd hrest.symm (hnever he' here)
    | one filled' spaced' here' others' =>
      simp only [List.append_assoc] at h
      obtain ⟨rfl, hrest⟩ := spaces_unique spaced spaced' (hfirst here) (hfirst here') h
      obtain ⟨rfl, hothers⟩ := attribute_unique here here' hrest
      obtain ⟨rfl, hends⟩ := ih others' hothers
      exact ⟨rfl, hends⟩

theorem IsAttributes.head_append {e : TagEnd} (h : IsAttributes a) (he : e ≠ .cut) :
    ∀ c ∈ (a ++ (e.written ++ s)).head?, isNameChar c = false := by
  cases h with
  | none spaced =>
    refine spaced.head_append fun c hc => ?_
    obtain ⟨d, hd, hends⟩ := TagEnd.written_head he s
    obtain rfl : c = d := Option.some.inj (hc.symm.trans hd)
    rcases hends with rfl | rfl <;> decide
  | @one spaces first rest filled spaced here others =>
    cases spaces with
    | nil => exact absurd rfl filled
    | cons c spaces =>
      have hfirst : IsSpaces [c] := List.forall_mem_singleton.mpr (spaced c List.mem_cons_self)
      exact hfirst.head_append (s := []) (by simp)

theorem tag_unique {name name' : String} {e e' : TagEnd} (ha : IsTag a name e)
    (hb : IsTag b name' e') (he : e ≠ .cut) (he' : e' ≠ .cut) (h : a ++ s = b ++ t) :
    a = b ∧ name = name' ∧ e = e' ∧ s = t := by
  obtain ⟨named, list⟩ := ha
  obtain ⟨named', list'⟩ := hb
  simp only [List.cons_append, List.append_assoc] at h
  obtain ⟨rfl, hattributes⟩ := name_unique named named' (list.head_append he)
    (list'.head_append he') (List.cons.inj h).2
  obtain ⟨rfl, rfl, hrest⟩ := attributes_unique list list' he he' hattributes
  exact ⟨rfl, rfl, rfl, hrest⟩

theorem close_unique {name name' : String} (ha : IsClose a name) (hb : IsClose b name')
    (h : a ++ s = b ++ t) : a = b ∧ s = t := by
  obtain ⟨named, spaced⟩ := ha
  obtain ⟨named', spaced'⟩ := hb
  simp only [List.cons_append, List.append_assoc] at h
  obtain ⟨rfl, hspaces⟩ := name_unique named named'
    (spaced.head_append (forall_head_cons (by decide)))
    (spaced'.head_append (forall_head_cons (by decide))) (List.cons.inj (List.cons.inj h).2).2
  obtain ⟨rfl, hrest⟩ := spaces_unique spaced spaced' (forall_head_cons (by decide))
    (forall_head_cons (by decide)) hspaces
  exact ⟨rfl, (List.cons.inj hrest).2⟩

end

/-!
Parts.
-/

/-- What begins in a text: a part of some kind, or the tag that closes an element. -/
inductive Kind where
  | run
  | marked
  | comment
  | instruction
  | element
  | close
deriving DecidableEq

def Part.kind : Part → Kind
  | .run .. => .run
  | .marked _ => .marked
  | .comment _ => .comment
  | .instruction _ => .instruction
  | .element .. => .element

def kindAt : List Char → Kind
  | '<' :: '!' :: '-' :: _ => .comment
  | '<' :: '!' :: _ => .marked
  | '<' :: '?' :: _ => .instruction
  | '<' :: '/' :: _ => .close
  | '<' :: _ => .element
  | _ => .run

theorem kindAt_of_ne {c : Char} {rest : List Char} (h : c ≠ '<') : kindAt (c :: rest) = .run := by
  unfold kindAt
  split
  all_goals first | rfl | next heq => exact absurd (List.cons.inj heq).1 h

theorem kindAt_of_isNameChar {c : Char} {rest : List Char} (h : isNameChar c = true) :
    kindAt ('<' :: c :: rest) = .element := by
  unfold kindAt
  split
  case h_5 => rfl
  case h_6 hnone => exact absurd rfl (hnone _)
  all_goals
    next heq =>
      obtain rfl := (List.cons.inj (List.cons.inj heq).2).1
      cases h

theorem kindAt_tag {tag rest : List Char} {name : String} {e : TagEnd} (h : IsTag tag name e) :
    kindAt (tag ++ rest) = .element := by
  obtain @⟨name, attributes, e, ⟨filled, chars⟩, -⟩ := h
  cases name with
  | nil => exact absurd rfl filled
  | cons c name => exact kindAt_of_isNameChar (chars c List.mem_cons_self)

theorem kindAt_close {close rest : List Char} {name : String} (h : IsClose close name) :
    kindAt (close ++ rest) = .close := by
  obtain ⟨named⟩ := h
  rfl

theorem kindAt_written {part : Part} (h : part.Proper) (rest : List Char) :
    kindAt (part.written ++ rest) = part.kind := by
  cases h with
  | @run written pieces filled plain resolved =>
    cases written with
    | nil => exact absurd rfl filled
    | cons c written => exact kindAt_of_ne fun heq => plain (heq ▸ List.mem_cons_self)
  | marked stops => simp [kindAt, Part.kind]
  | comment stops => simp [kindAt, Part.kind]
  | instruction stops undeclared => simp [kindAt, Part.kind]
  | element opens proper apart closes =>
    rw [Part.written_element, List.append_assoc]
    exact kindAt_tag opens
  | empty closes =>
    rw [Part.written_element, List.append_assoc]
    exact kindAt_tag closes

theorem head_of_kindAt {s : List Char} (h : kindAt s ≠ .run) : ∀ c ∈ s.head?, c = '<' := by
  intro c hc
  by_contra hne
  obtain ⟨rest, rfl⟩ := List.head?_eq_some_iff.mp hc
  exact h (kindAt_of_ne hne)

theorem kind_eq_run_iff {part : Part} : part.kind = .run ↔ part.IsRun := by
  cases part <;> simp [Part.kind, Part.IsRun]

theorem kind_ne_close (part : Part) : part.kind ≠ .close := by
  cases part <;> simp [Part.kind]

/-- What follows a run is no character of it. -/
def Bounds (part : Part) (rest : List Char) : Prop := part.IsRun → ∀ c ∈ rest.head?, c = '<'

/-- Any text that begins with the part can be read with it at the beginning only. -/
def Part.Unique (part : Part) : Prop :=
  ∀ {other : Part} {s t : List Char}, other.Proper → Bounds part s → Bounds other t →
    part.written ++ s = other.written ++ t → part = other ∧ s = t

theorem bounds_append {part : Part} {parts : List Part} {close : List Char}
    (apart : (part :: parts).IsChain fun a b => ¬ (a.IsRun ∧ b.IsRun))
    (proper : ∀ part ∈ parts, part.Proper) (hclose : kindAt close = .close) :
    Bounds part (writtenParts parts ++ close) := by
  intro hrun
  refine head_of_kindAt ?_
  cases parts with
  | nil => simp [hclose]
  | cons next parts =>
    rw [writtenParts_cons, List.append_assoc, kindAt_written (proper next List.mem_cons_self),
      ne_eq, kind_eq_run_iff]
    exact fun hnext => (List.isChain_cons_cons.mp apart).1 ⟨hrun, hnext⟩

theorem parts_unique {parts others : List Part} {close close' : List Char}
    (unique : ∀ part ∈ parts, part.Unique) (proper : ∀ part ∈ parts, part.Proper)
    (apart : parts.IsChain fun a b => ¬ (a.IsRun ∧ b.IsRun))
    (proper' : ∀ part ∈ others, part.Proper)
    (apart' : others.IsChain fun a b => ¬ (a.IsRun ∧ b.IsRun)) (hclose : kindAt close = .close)
    (hclose' : kindAt close' = .close)
    (h : writtenParts parts ++ close = writtenParts others ++ close') :
    parts = others ∧ close = close' := by
  induction parts generalizing others with
  | nil =>
    cases others with
    | nil => exact ⟨rfl, h⟩
    | cons other others =>
      have hkind := congrArg kindAt h
      rw [writtenParts_cons, List.append_assoc, kindAt_written (proper' other List.mem_cons_self)]
        at hkind
      exact absurd (hkind.symm.trans hclose) (kind_ne_close other)
  | cons part parts ih =>
    rw [List.forall_mem_cons] at unique proper
    cases others with
    | nil =>
      have hkind := congrArg kindAt h
      rw [writtenParts_cons, List.append_assoc, kindAt_written proper.1] at hkind
      exact absurd (hkind.trans hclose') (kind_ne_close part)
    | cons other others =>
      rw [List.forall_mem_cons] at proper'
      rw [writtenParts_cons, writtenParts_cons, List.append_assoc, List.append_assoc] at h
      obtain ⟨rfl, hrest⟩ := unique.1 proper'.1 (bounds_append apart proper.2 hclose)
        (bounds_append apart' proper'.2 hclose') h
      obtain ⟨rfl, hends⟩ := ih unique.2 proper.2 apart.of_cons proper'.2 apart'.of_cons hrest
      exact ⟨rfl, hends⟩

theorem kind_eq {part other : Part} {s t : List Char} (h : part.Proper) (hother : other.Proper)
    (heq : part.written ++ s = other.written ++ t) : part.kind = other.kind := by
  rw [← kindAt_written h s, heq, kindAt_written hother]

theorem Part.Proper.unique {part : Part} (h : part.Proper) : part.Unique := by
  intro other s t hother hbounds hbounds' heq
  have hkind := kind_eq h hother heq
  induction h generalizing other s t with
  | run filled plain resolved =>
    cases hother with
    | run filled' plain' resolved' =>
      obtain ⟨rfl, hrest⟩ := cut_unique plain plain' (hbounds trivial) (hbounds' trivial) heq
      rw [resolves_unique resolved resolved']
      exact ⟨rfl, hrest⟩
    | _ => cases hkind
  | marked stops =>
    cases hother with
    | marked stops' =>
      simp only [Part.written_marked, List.append_assoc] at heq
      obtain ⟨rfl, hrest⟩ := mark_unique stops stops' (List.append_cancel_left heq)
      exact ⟨rfl, hrest⟩
    | _ => cases hkind
  | comment stops =>
    cases hother with
    | comment stops' =>
      simp only [Part.written_comment, List.append_assoc] at heq
      obtain ⟨rfl, hrest⟩ := mark_unique stops stops' (List.append_cancel_left heq)
      exact ⟨rfl, hrest⟩
    | _ => cases hkind
  | instruction stops undeclared =>
    cases hother with
    | instruction stops' undeclared' =>
      simp only [Part.written_instruction, List.append_assoc] at heq
      obtain ⟨rfl, hrest⟩ := mark_unique stops stops' (List.append_cancel_left heq)
      exact ⟨rfl, hrest⟩
    | _ => cases hkind
  | @element name tag close parts opens proper apart closes ih =>
    have hunique : ∀ part ∈ parts, part.Unique := fun part hpart _ _ _ hnext hb hb' hwritten =>
      ih part hpart hnext hb hb' hwritten (kind_eq (proper part hpart) hnext hwritten)
    cases hother with
    | element opens' proper' apart' closes' =>
      simp only [Part.written_element, List.append_assoc] at heq
      obtain ⟨rfl, rfl, -, hparts⟩ := tag_unique opens opens' (by decide) (by decide) heq
      obtain ⟨rfl, hclose⟩ := parts_unique hunique proper apart proper' apart'
        (kindAt_close closes) (kindAt_close closes') hparts
      obtain ⟨rfl, hrest⟩ := close_unique closes closes' hclose
      exact ⟨rfl, hrest⟩
    | empty closes' =>
      simp only [Part.written_element, List.append_assoc] at heq
      cases (tag_unique opens closes' (by decide) (by decide) heq).2.2.1
    | _ => cases hkind
  | empty closes =>
    cases hother with
    | element opens' proper' apart' closes' =>
      simp only [Part.written_element, List.append_assoc] at heq
      cases (tag_unique closes opens' (by decide) (by decide) heq).2.2.1
    | empty closes' =>
      simp only [Part.written_element, List.append_assoc] at heq
      obtain ⟨rfl, -, -, hrest⟩ := tag_unique closes closes' (by decide) (by decide) heq
      exact ⟨rfl, hrest⟩
    | _ => cases hkind

/-!
Documents.
-/

theorem Part.IsMisc.spaces_or_proper {part : Part} (h : part.IsMisc) :
    IsSpaces part.written ∨ part.Proper ∧ part.kind ≠ .run ∧ part.kind ≠ .element := by
  cases h with
  | spaces spaced => exact .inl spaced
  | comment proper => exact .inr ⟨proper, by simp [Part.kind], by simp [Part.kind]⟩
  | instruction proper => exact .inr ⟨proper, by simp [Part.kind], by simp [Part.kind]⟩

theorem dropWhile_of_kindAt {s : List Char} (h : kindAt s ≠ .run) : s.dropWhile isSpace = s := by
  cases s with
  | nil => rfl
  | cons c s =>
    obtain rfl : c = '<' := head_of_kindAt h c rfl
    rfl

theorem dropWhile_spaces {spaces : List Char} (h : IsSpaces spaces) (rest : List Char) :
    (spaces ++ rest).dropWhile isSpace = rest.dropWhile isSpace :=
  List.dropWhile_append_of_pos h

theorem dropWhile_of_proper {part : Part} (proper : part.Proper) (hrun : part.kind ≠ .run)
    (rest : List Char) : (part.written ++ rest).dropWhile isSpace = part.written ++ rest :=
  dropWhile_of_kindAt (by rwa [kindAt_written proper])

/-- What stands before an element ends where the element begins. -/
theorem misc_unique {before before' : List Part} {s t : List Char}
    (misc : ∀ part ∈ before, part.IsMisc) (misc' : ∀ part ∈ before', part.IsMisc)
    (hs : kindAt s = .element) (ht : kindAt t = .element)
    (h : (writtenParts before ++ s).dropWhile isSpace =
      (writtenParts before' ++ t).dropWhile isSpace) : s = t := by
  have hnever : ∀ {part : Part} {text rest : List Char}, part.Proper → part.kind ≠ .element →
      kindAt text = .element → text ≠ part.written ++ rest := fun proper hkind htext heq =>
    hkind (by rw [← kindAt_written proper, ← heq, htext])
  have hselement : s.dropWhile isSpace = s := dropWhile_of_kindAt (by simp [hs])
  have htelement : t.dropWhile isSpace = t := dropWhile_of_kindAt (by simp [ht])
  induction before generalizing before' with
  | nil =>
    rw [writtenParts_nil, List.nil_append, hselement] at h
    induction before' with
    | nil => rwa [writtenParts_nil, List.nil_append, htelement] at h
    | cons part before' ih =>
      rw [List.forall_mem_cons] at misc'
      rw [writtenParts_cons, List.append_assoc] at h
      rcases misc'.1.spaces_or_proper with spaced | ⟨proper, hrun, hkind⟩
      · exact ih misc'.2 (h.trans (dropWhile_spaces spaced _))
      · exact absurd (h.trans (dropWhile_of_proper proper hrun _)) (hnever proper hkind hs)
  | cons part before ih =>
    rw [List.forall_mem_cons] at misc
    rw [writtenParts_cons, List.append_assoc] at h
    rcases misc.1.spaces_or_proper with spaced | ⟨proper, hrun, hkind⟩
    · exact ih misc.2 misc' ((dropWhile_spaces spaced _).symm.trans h)
    · rw [dropWhile_of_proper proper hrun _] at h
      induction before' with
      | nil =>
        rw [writtenParts_nil, List.nil_append, htelement] at h
        exact absurd h.symm (hnever proper hkind ht)
      | cons other before' ih' =>
        rw [List.forall_mem_cons] at misc'
        rw [writtenParts_cons, List.append_assoc] at h
        rcases misc'.1.spaces_or_proper with spaced | ⟨proper', hrun', -⟩
        · exact ih' misc'.2 (h.trans (dropWhile_spaces spaced _))
        · rw [dropWhile_of_proper proper' hrun' _] at h
          have hbounds : ∀ {part : Part} {rest : List Char}, part.kind ≠ .run →
              Bounds part rest := fun hkind hruns => absurd (kind_eq_run_iff.mpr hruns) hkind
          obtain ⟨-, hrest⟩ := proper.unique proper' (hbounds hrun) (hbounds hrun') h
          exact ih misc.2 misc'.2 (congrArg (List.dropWhile isSpace) hrest)

theorem head_misc {before : List Part} {s : List Char} (misc : ∀ part ∈ before, part.IsMisc)
    (hs : kindAt s = .element) :
    ∀ c ∈ ((writtenParts before ++ s).dropWhile isSpace).head?, c = '<' := by
  induction before with
  | nil =>
    rw [writtenParts_nil, List.nil_append, dropWhile_of_kindAt (by simp [hs])]
    exact head_of_kindAt (by simp [hs])
  | cons part before ih =>
    rw [List.forall_mem_cons] at misc
    rw [writtenParts_cons, List.append_assoc]
    rcases misc.1.spaces_or_proper with spaced | ⟨proper, hrun, -⟩
    · rw [dropWhile_spaces spaced]
      exact ih misc.2
    · rw [dropWhile_of_proper proper hrun]
      exact head_of_kindAt (by rwa [kindAt_written proper])

theorem misc_ne_declaration {before : List Part} {s : List Char}
    (misc : ∀ part ∈ before, part.IsMisc) (hs : kindAt s = .element) (rest : List Char) :
    (writtenParts before ++ s).dropWhile isSpace ≠ "<?xml ".toList ++ rest := by
  have hdeclaration : kindAt ("<?xml ".toList ++ rest) = .instruction := by simp [kindAt]
  intro h
  induction before with
  | nil =>
    rw [writtenParts_nil, List.nil_append, dropWhile_of_kindAt (by simp [hs])] at h
    rw [← h, hs] at hdeclaration
    cases hdeclaration
  | cons part before ih =>
    rw [List.forall_mem_cons] at misc
    rw [writtenParts_cons, List.append_assoc] at h
    cases misc.1 with
    | spaces spaced => exact ih misc.2 ((dropWhile_spaces spaced _).symm.trans h)
    | comment proper =>
      rw [dropWhile_of_proper proper (by simp [Part.kind])] at h
      rw [← h, kindAt_written proper] at hdeclaration
      cases hdeclaration
    | @instruction content proper =>
      rw [dropWhile_of_proper proper (by simp [Part.kind])] at h
      cases proper with
      | instruction stops undeclared =>
        have hbegins : content ++ '?' :: '>' :: (writtenParts before ++ s) =
            ['x', 'm', 'l', ' '] ++ rest := by
          simpa using h
        rcases List.append_eq_append_iff.mp hbegins with ⟨more, hmore, hrest⟩ | ⟨more, hmore, -⟩
        · cases more with
          | nil => exact undeclared ⟨[], by simpa using hmore⟩
          | cons c more =>
            obtain rfl : '?' = c := (List.cons.inj hrest).1
            have hmem : '?' ∈ ['x', 'm', 'l', ' '] := by
              rw [hmore]
              simp
            exact absurd hmem (by decide)
        · exact undeclared ⟨more, by simpa using hmore.symm⟩

/-- What follows a declaration, or the mark, up to the element: spaces, and then a tag, a comment or
an instruction. -/
theorem misc_split {before : List Part} {s : List Char} (misc : ∀ part ∈ before, part.IsMisc)
    (hs : kindAt s = .element) :
    ∃ spaces rest, IsSpaces spaces ∧ (∀ c ∈ rest.head?, c = '<') ∧
      writtenParts before ++ s = spaces ++ rest ∧
      (writtenParts before ++ s).dropWhile isSpace = rest :=
  ⟨_, _, fun _ hc => List.mem_takeWhile_imp hc, head_misc misc hs,
    List.takeWhile_append_dropWhile.symm, rfl⟩

theorem declared_unique {content content' : List Char} {before before' : List Part}
    {s t : List Char} (misc : ∀ part ∈ before, part.IsMisc)
    (misc' : ∀ part ∈ before', part.IsMisc) (hs : kindAt s = .element) (ht : kindAt t = .element)
    (plain : '<' ∉ content) (plain' : '<' ∉ content')
    (h : content ++ ("?>".toList ++ (writtenParts before ++ s)) =
      content' ++ ("?>".toList ++ (writtenParts before' ++ t))) : s = t := by
  obtain ⟨spaces, rest, hspaces, hrest, hsplit, hdrop⟩ := misc_split misc hs
  obtain ⟨spaces', rest', hspaces', hrest', hsplit', hdrop'⟩ := misc_split misc' ht
  have hplain : ∀ {content spaces : List Char}, '<' ∉ content → IsSpaces spaces →
      '<' ∉ content ++ ("?>".toList ++ spaces) := by
    intro content spaces hcontent hspaces
    have hspace : '<' ∉ spaces := hspaces.not_mem rfl
    simp [hcontent, hspace]
  rw [hsplit, hsplit'] at h
  obtain ⟨-, rfl⟩ := cut_unique (hplain plain hspaces) (hplain plain' hspaces') hrest hrest'
    (by simpa only [List.append_assoc] using h)
  exact misc_unique misc misc' hs ht (hdrop.trans hdrop'.symm)

theorem head_body {declaration : List Char} {before : List Part} {s : List Char}
    (declares : declaration = [] ∨ IsDeclaration declaration)
    (misc : ∀ part ∈ before, part.IsMisc) (hs : kindAt s = .element) :
    ∀ c ∈ (declaration ++ (writtenParts before ++ s)).head?, (c == '\uFEFF') = false := by
  rcases declares with rfl | ⟨content, rfl, -⟩
  · obtain ⟨spaces, rest, hspaces, hrest, hsplit, -⟩ := misc_split misc hs
    rw [List.nil_append, hsplit]
    cases spaces with
    | nil => exact fun c hc => hrest c hc ▸ rfl
    | cons d spaces =>
      refine forall_head_cons (beq_eq_false_iff_ne.mpr ?_)
      rintro rfl
      exact Bool.false_ne_true (hspaces _ List.mem_cons_self)
  · simp

theorem body_unique {declaration declaration' : List Char} {before before' : List Part}
    {s t : List Char} (declares : declaration = [] ∨ IsDeclaration declaration)
    (declares' : declaration' = [] ∨ IsDeclaration declaration')
    (misc : ∀ part ∈ before, part.IsMisc) (misc' : ∀ part ∈ before', part.IsMisc)
    (hs : kindAt s = .element) (ht : kindAt t = .element)
    (h : declaration ++ (writtenParts before ++ s) =
      declaration' ++ (writtenParts before' ++ t)) : s = t := by
  -- A declaration cannot be taken for an instruction, so both readings see one or neither does.
  have hnever : ∀ {before : List Part} {s content rest : List Char},
      (∀ part ∈ before, part.IsMisc) → kindAt s = .element →
      writtenParts before ++ s ≠ "<?xml ".toList ++ content ++ rest := by
    intro before s content rest misc hs heq
    refine misc_ne_declaration misc hs (content ++ rest) ?_
    rw [heq, List.append_assoc]
    exact dropWhile_of_kindAt (by simp [kindAt])
  rcases declares with rfl | ⟨content, rfl, plain⟩
  · rcases declares' with rfl | ⟨content', rfl, -⟩
    · exact misc_unique misc misc' hs ht (congrArg (List.dropWhile isSpace) h)
    · exact absurd h (hnever misc hs)
  · rcases declares' with rfl | ⟨content', rfl, plain'⟩
    · exact absurd h.symm (hnever misc' ht)
    · simp only [List.append_assoc] at h
      exact declared_unique misc misc' hs ht plain plain' (List.append_cancel_left h)

/-- A source has one reading. -/
theorem IsDocument.unique {source : List Char} {root other : Part} (h : IsDocument source root)
    (h' : IsDocument source other) : root = other := by
  have hkind : ∀ {root : Part}, root.Proper → root.isElement = true → root.kind = .element := by
    intro root proper helement
    cases proper <;> first | rfl | cases helement
  have hbounds : ∀ {root : Part} {rest : List Char}, root.kind = .element → Bounds root rest :=
    fun hkind hrun => absurd (hkind.symm.trans (kind_eq_run_iff.mpr hrun)) (by decide)
  have hmark : ∀ {mark : List Char}, mark = [] ∨ mark = ['\uFEFF'] →
      ∀ c ∈ mark, (c == '\uFEFF') = true := by
    rintro mark (rfl | rfl) <;> simp
  generalize hsource : source = text at h'
  cases h with
  | intro marks declares misc proper element =>
    cases h' with
    | intro marks' declares' misc' proper' element' =>
      have hs := fun rest => (kindAt_written proper rest).trans (hkind proper element)
      have ht := fun rest => (kindAt_written proper' rest).trans (hkind proper' element')
      obtain ⟨-, hbody⟩ := run_unique (hmark marks) (hmark marks')
        (head_body declares misc (hs _)) (head_body declares' misc' (ht _)) hsource
      have hroot := body_unique declares declares' misc misc' (hs _) (ht _) hbody
      exact (proper.unique proper' (hbounds (hkind proper element))
        (hbounds (hkind proper' element')) hroot).1

end Colloquy.Markup
