import Colloquy.Proofs.Except
import Colloquy.Proofs.Markup.Source
import Mathlib.Data.List.TakeWhile

/-!
What reading passes: whatever a step accepts is written as the grammar has it, and the text goes on
right behind it.
-/

namespace Colloquy

open Markup

namespace Cursor

variable {cursor : Cursor}

theorem exists_of_startsWith {text : String} (h : cursor.startsWith text = true) :
    ∃ back, cursor.rest = text.toList ++ back := by
  obtain ⟨back, hback⟩ := List.isPrefixOf_iff_prefix.mp h
  exact ⟨back, hback.symm⟩

theorem not_mem_of_readUntil {stops : List Char → Bool} {text : List Char} {stop : Onward cursor}
    (h : cursor.readUntil stops = .ok (text, stop)) {c : Char}
    (hc : ∀ rest, stops (c :: rest) = true) : c ∉ text := by
  obtain ⟨hrest, hgoes, -⟩ := readUntil_eq_ok h
  intro hmem
  obtain ⟨k, hk, rfl⟩ := List.getElem_of_mem hmem
  have hhere := hgoes k hk
  rw [hrest, List.drop_append_of_le_length (Nat.le_of_lt hk), List.drop_eq_getElem_cons hk,
    List.cons_append, hc] at hhere
  cases hhere

/-- What is read up to a mark, and then the mark. -/
theorem readUntil_expectText_eq_ok {mark : String} {text : List Char} {stop : Onward cursor}
    {next : Onward stop.1} (h : cursor.readUntil (mark.toList.isPrefixOf ·) = .ok (text, stop))
    (hmark : stop.1.expectText mark = .ok next) :
    Part.Stops mark text ∧ cursor.rest = text ++ (mark.toList ++ next.1.rest) := by
  obtain ⟨hrest, hgoes, -⟩ := readUntil_eq_ok h
  rw [expectText_eq_ok hmark] at hrest
  refine ⟨fun k hk hbegins => ?_, hrest⟩
  have hhere := hgoes k hk
  have hle : k ≤ (text ++ mark.toList).length := by
    rw [List.length_append]
    omega
  rw [hrest, ← List.append_assoc, List.drop_append_of_le_length hle,
    List.isPrefixOf_iff_prefix.mpr (hbegins.trans (List.prefix_append _ _))] at hhere
  cases hhere

theorem takeWhile_spec (p : Char → Bool) (cursor : Cursor) :
    cursor.rest = (cursor.takeWhile p).1 ++ (cursor.takeWhile p).2.1.rest ∧
      ∀ c ∈ (cursor.takeWhile p).1, p c = true := by
  rw [fst_takeWhile, rest_takeWhile, List.takeWhile_append_dropWhile]
  exact ⟨rfl, fun c hc => List.mem_takeWhile_imp hc⟩

theorem exists_spaces (cursor : Cursor) :
    ∃ spaces, IsSpaces spaces ∧ cursor.rest = spaces ++ cursor.skipSpaces.1.rest :=
  ⟨_, (takeWhile_spec isSpace cursor).2, (takeWhile_spec isSpace cursor).1⟩

/-!
Names and references.
-/

theorem readQName_eq_ok {q : QName} {next : Beyond cursor} (h : cursor.readQName = .ok (q, next)) :
    ∃ name, IsName name ∧ q.name = localName name ∧ cursor.rest = name ++ next.1.rest := by
  obtain ⟨hrest, hname⟩ := takeWhile_spec isNameChar cursor
  unfold readQName at h
  simp -zeta only at h
  generalize cursor.takeWhile isNameChar = taken at h hrest hname
  obtain ⟨run, stop⟩ := taken
  extract_lets qualified qualifier name startsWell at h
  by_cases hlt : stop.1.size < cursor.size
  · rw [dif_pos hlt] at h
    obtain ⟨_, h⟩ := eq_of_guard_eq_ok h
    obtain ⟨rfl, rfl⟩ := Prod.mk.inj (Except.ok.inj h)
    refine ⟨run, ⟨?_, hname⟩, by simp [localName, name, qualified], hrest⟩
    rintro rfl
    exact Nat.lt_irrefl _ (hlt.trans_eq (congrArg List.length hrest))
  · rw [dif_neg hlt] at h
    cases h

theorem isNameChar_of_isNameStart {c : Char} (h : isNameStart c = true) : isNameChar c = true := by
  unfold isNameStart at h
  unfold isNameChar
  split at h
  · next hcode =>
    rw [if_pos hcode]
    simp only [Bool.or_eq_true, Char.isAlphanum] at h ⊢
    tauto
  · next hcode =>
    rw [if_neg hcode, h, Bool.true_or]

theorem readName_eq_ok {name : String} {next : Beyond cursor}
    (h : cursor.readName = .ok (name, next)) :
    IsName name.toList ∧ cursor.rest = name.toList ++ next.1.rest := by
  unfold readName at h
  split at h
  · next c tail hrest =>
    split at h
    · next hc =>
      extract_lets first at h
      have hfirst : first.1.rest = tail := by rw [rest_advance, hrest, List.tail_cons]
      obtain ⟨htail, hname⟩ := takeWhile_spec isNameChar first.1
      simp only at h
      obtain ⟨rfl, rfl⟩ := Prod.mk.inj (Except.ok.inj h)
      rw [String.toList_ofList]
      refine ⟨⟨List.cons_ne_nil _ _, fun d hd => ?_⟩, ?_⟩
      · rcases List.mem_cons.mp hd with rfl | hd
        · exact isNameChar_of_isNameStart hc
        · exact hname d hd
      · exact hrest.trans (congrArg (c :: ·) (hfirst.symm.trans htail))
    · cases h
  · cases h

theorem readReference_eq_ok {c : Char} {next : Beyond cursor}
    (h : cursor.readReference = .ok (c, next)) :
    ∃ reference, IsReference reference c ∧ cursor.rest = reference ++ next.1.rest := by
  unfold readReference at h
  extract_lets malformed close at h
  have hclose : ∀ {stop last : Beyond cursor}, close stop = .ok last →
      stop.1.rest = ';' :: last.1.rest := by
    intro stop last hlast
    simp only [close] at hlast
    cases hend : stop.1.expect ';' with
    | error fault =>
        rw [hend] at hlast
        cases hlast
    | ok after =>
        rw [hend] at hlast
        obtain rfl := Except.ok.inj hlast
        exact expect_eq_ok hend
  split at h
  · next tail hrest =>
    extract_lets mark hash hexadecimal start at h
    obtain ⟨hstart, hdigits⟩ :=
      takeWhile_spec (if hexadecimal then isHexDigit else Char.isDigit) start.1
    simp -zeta only at h
    generalize start.1.takeWhile (if hexadecimal then isHexDigit else Char.isDigit) = taken
      at h hstart hdigits
    obtain ⟨digits, stop⟩ := taken
    extract_lets code read after at h
    obtain ⟨hfit, h⟩ := eq_of_guard_eq_ok h
    have hfilled : digits ≠ [] := fun hempty => hfit (.inl hempty)
    split at h
    · next last hlast =>
      obtain ⟨rfl, rfl⟩ := Prod.mk.inj (Except.ok.inj h)
      have hafter : stop.1.rest = ';' :: last.1.rest := hclose hlast
      have hhash : hash.1.rest = tail := by simp [hash, mark, hrest]
      rw [rest_skip, hhash, hafter] at hstart
      cases hmark : hexadecimal with
      | true =>
          simp only [hmark, if_true] at hstart hdigits
          obtain ⟨back, hback⟩ := exists_of_startsWith hmark
          rw [hhash] at hback
          have hback' : tail = 'x' :: back := hback
          rw [hback'] at hstart
          refine ⟨'&' :: '#' :: 'x' :: (digits ++ [';']), ?_, ?_⟩
          · simp only [read, code, hmark, if_true]
            exact .hexadecimal hfilled hdigits
          · simp_all
      | false =>
          simp only [hmark] at hstart hdigits
          refine ⟨'&' :: '#' :: (digits ++ [';']), ?_, ?_⟩
          · simp only [read, code, hmark, Bool.false_eq_true, if_false]
            exact .decimal hfilled hdigits
          · simp_all
    · cases h
  · next tail _ hrest =>
    extract_lets mark at h
    split at h
    · next name stop hname =>
      split at h
      · next last hlast =>
        split at h
        · next known =>
          obtain ⟨rfl, rfl⟩ := Prod.mk.inj (Except.ok.inj h)
          refine ⟨_, .named known, ?_⟩
          have htail : mark.1.rest = tail := by rw [rest_advance, hrest, List.tail_cons]
          have hsemi : stop.1.rest = ';' :: last.1.rest := hclose hlast
          have hmark := (readName_eq_ok hname).2
          rw [htail, hsemi] at hmark
          simp [hrest, hmark]
        · cases h
      · cases h
    · cases h
  · cases h

theorem readPieces_eq_ok {cursor : Cursor} {pieces : List Piece}
    (h : cursor.readPieces = .ok pieces) : Resolves cursor.rest pieces := by
  unfold readPieces at h
  split at h
  · next hrest =>
    cases h
    rw [hrest]
    exact .nil
  · next c tail hrest =>
    split at h
    · obtain ⟨⟨found, next⟩, hfound, h⟩ := exists_of_bind_eq_ok h
      obtain ⟨others, hothers, h⟩ := exists_of_bind_eq_ok h
      obtain rfl := Except.ok.inj h
      obtain ⟨reference, here, hreference⟩ := readReference_eq_ok hfound
      rw [hreference]
      exact .referred here (readPieces_eq_ok hothers)
    · next hplain =>
      obtain ⟨others, hothers, h⟩ := exists_of_bind_eq_ok h
      obtain rfl := Except.ok.inj h
      have htail := readPieces_eq_ok hothers
      rw [rest_advance, hrest, List.tail_cons] at htail
      rw [hrest]
      exact .literal hplain htail
termination_by cursor.size
decreasing_by
  · exact (cursor.advance _).2
  · exact next.2

/-!
Tags.
-/

theorem skipEquals_eq_ok {next : Beyond cursor} (h : cursor.skipEquals = .ok next) :
    ∃ before after, IsSpaces before ∧ IsSpaces after ∧
      cursor.rest = before ++ '=' :: (after ++ next.1.rest) := by
  unfold skipEquals at h
  obtain ⟨sign, hsign, h⟩ := exists_of_bind_eq_ok h
  obtain rfl := Except.ok.inj h
  obtain ⟨before, hbefore, hrest⟩ := exists_spaces cursor
  obtain ⟨after, hafter, hsignRest⟩ := exists_spaces sign.1
  refine ⟨before, after, hbefore, hafter, ?_⟩
  rw [hrest, expect_eq_ok hsign, hsignRest]

theorem readRawAttribute_eq_ok {name : QName} {value : Cursor} {run : List Char}
    {next : Beyond cursor} (h : cursor.readRawAttribute = .ok (name, value, run, next)) :
    ∃ written, IsAttribute written ∧ cursor.rest = written ++ next.1.rest := by
  unfold readRawAttribute at h
  obtain ⟨⟨q, afterName⟩, hname, h⟩ := exists_of_bind_eq_ok h
  obtain ⟨afterSign, hsign, h⟩ := exists_of_bind_eq_ok h
  obtain ⟨⟨quote, value⟩, hquote, h⟩ := exists_of_bind_eq_ok h
  obtain ⟨⟨run, afterRun⟩, hrun, h⟩ := exists_of_bind_eq_ok h
  obtain ⟨last, hlast, h⟩ := exists_of_bind_eq_ok h
  cases h
  obtain ⟨written, named, -, hrest⟩ := readQName_eq_ok hname
  obtain ⟨before, after, spacedBefore, spacedAfter, hequals⟩ := skipEquals_eq_ok hsign
  obtain ⟨quotes, hvalue⟩ := readQuote_eq_ok hquote
  obtain ⟨hsplit, -, -⟩ := readUntil_eq_ok hrun
  refine ⟨_, .intro named spacedBefore spacedAfter quotes
    ⟨not_mem_of_readUntil hrun (by simp), not_mem_of_readUntil hrun (by simp)⟩, ?_⟩
  simp only [hrest, hequals, hvalue, hsplit, expect_eq_ok hlast]
  simp

theorem readAttribute_eq_ok {a : Attribute} {next : Beyond cursor}
    (h : cursor.readAttribute = .ok (a, next)) :
    ∃ written, IsAttribute written ∧ cursor.rest = written ++ next.1.rest := by
  unfold readAttribute at h
  obtain ⟨⟨name, value, run, stop⟩, hraw, h⟩ := exists_of_bind_eq_ok h
  obtain ⟨pieces, -, h⟩ := exists_of_bind_eq_ok h
  cases h
  exact readRawAttribute_eq_ok hraw

theorem name_of_add_eq_ok {tag read : Tag} {a : Attribute} (h : tag.add a = .ok read) :
    read.name = tag.name := by
  unfold Tag.add at h
  split at h
  · obtain ⟨-, h⟩ := eq_of_guard_eq_ok h
    split at h
    · split at h
      · cases h
        rfl
      · cases h
    · obtain ⟨-, h⟩ := eq_of_guard_eq_ok h
      obtain ⟨-, h⟩ := eq_of_guard_eq_ok h
      cases h
      rfl
  · split at h
    · obtain ⟨-, h⟩ := eq_of_guard_eq_ok h
      obtain ⟨-, h⟩ := eq_of_guard_eq_ok h
      cases h
      rfl
    · cases h
      rfl

theorem readAttributes_eq_ok {cursor : Cursor} {tag read : Tag} {tagEnd : TagEnd}
    {last : Onward cursor} (h : cursor.readAttributes tag = .ok (read, tagEnd, last))
    (hend : tagEnd ≠ .cut) :
    read.name = tag.name ∧ ∃ attributes, IsAttributes attributes ∧
      cursor.rest = attributes ++ (tagEnd.written ++ last.1.rest) := by
  unfold readAttributes at h
  split at h
  · cases h
    exact absurd rfl hend
  · extract_lets spaced start at h
    obtain ⟨spaces, hspaces, hrest⟩ := exists_spaces cursor
    split at h
    · cases h
    · next tail hstart =>
      extract_lets slash at h
      obtain ⟨next, hnext, h⟩ := exists_of_bind_eq_ok h
      cases h
      have hslash : slash.1.rest = tail := by rw [rest_advance, hstart, List.tail_cons]
      refine ⟨rfl, spaces, .none hspaces, ?_⟩
      rw [hrest]
      exact congrArg (spaces ++ ·)
        (hstart.trans (congrArg ('/' :: ·) (hslash.symm.trans (expect_eq_ok hnext))))
    · next tail hstart =>
      cases h
      have hnext : (start.1.advance (by simp [hstart])).1.rest = tail := by
        rw [rest_advance, hstart, List.tail_cons]
      refine ⟨rfl, spaces, .none hspaces, ?_⟩
      rw [hrest]
      exact congrArg (spaces ++ ·) (hstart.trans (congrArg ('>' :: ·) hnext.symm))
    · next c tail _ _ hstart =>
      split at h
      · cases h
      · next hspaced =>
        obtain ⟨⟨a, next⟩, ha, h⟩ := exists_of_bind_eq_ok h
        obtain ⟨added, hadded, h⟩ := exists_of_bind_eq_ok h
        obtain ⟨⟨read, tagEnd, last⟩, hothers, h⟩ := exists_of_bind_eq_ok h
        cases h
        obtain ⟨first, here, hfirst⟩ := readAttribute_eq_ok ha
        obtain ⟨hname, others, hlist, hrestOthers⟩ := readAttributes_eq_ok hothers hend
        refine ⟨hname.trans (name_of_add_eq_ok hadded), _, .one ?_ hspaces here hlist, ?_⟩
        · rintro rfl
          have hkept : cursor.rest.dropWhile isSpace = cursor.rest := by
            rw [← rest_skipSpaces]
            exact hrest.symm
          rw [List.nil_append, hstart] at hrest
          have hspace : isSpace c = true := by simpa [spaced, hrest] using hspaced
          have hnone : isSpace c = false := by
            simpa [hrest] using List.dropWhile_eq_self_iff.mp hkept
          exact Bool.false_ne_true (hnone.symm.trans hspace)
        · rw [hrest, hfirst, hrestOthers]
          simp
termination_by cursor.size
decreasing_by
  exact Nat.lt_of_lt_of_le next.2 cursor.skipSpaces.2

theorem readTag_eq_ok {hempty : cursor.rest ≠ []} {tag : Tag} {tagEnd : TagEnd}
    {next : Beyond cursor} (h : cursor.readTag hempty = .ok (tag, tagEnd, next))
    (hend : tagEnd ≠ .cut) (hstarts : cursor.startsWith "<" = true) :
    ∃ written, IsTag written tag.name.name tagEnd ∧ cursor.rest = written ++ next.1.rest := by
  unfold readTag at h
  obtain ⟨⟨name, afterName⟩, hname, h⟩ := exists_of_bind_eq_ok h
  obtain ⟨-, h⟩ := eq_of_guard_eq_ok h
  obtain ⟨⟨read, readEnd, last⟩, hread, h⟩ := exists_of_bind_eq_ok h
  cases h
  obtain ⟨back, hback⟩ := exists_of_startsWith hstarts
  obtain ⟨written, named, hlocal, hrest⟩ := readQName_eq_ok hname
  obtain ⟨htag, attributes, hlist, hrestAttributes⟩ := readAttributes_eq_ok hread hend
  rw [rest_advance, hback] at hrest
  refine ⟨'<' :: (written ++ (attributes ++ tagEnd.written)), ?_, ?_⟩
  · rw [htag, hlocal]
    exact .intro named hlist
  · rw [hback]
    refine congrArg ('<' :: ·) (hrest.trans ?_)
    rw [hrestAttributes]
    simp

/-!
Comments, instructions, sections and text.
-/

theorem rest_eq_of_startsWith {text : String} (h : cursor.startsWith text = true)
    (hempty : cursor.rest ≠ []) (n : Nat) (hn : text.toList.length = n + 1) :
    cursor.rest = text.toList ++ ((cursor.advance hempty).1.skip n).1.rest := by
  obtain ⟨back, hback⟩ := exists_of_startsWith h
  rw [rest_skip, rest_advance, List.drop_tail, hback, List.drop_left' hn]

theorem readComment_eq_ok {hempty : cursor.rest ≠ []} {next : Beyond cursor}
    (h : cursor.readComment hempty = .ok next) (hstarts : cursor.startsWith "<!--" = true) :
    ∃ content, (Part.comment content).Proper ∧
      cursor.rest = (Part.comment content).written ++ next.1.rest := by
  unfold readComment at h
  obtain ⟨⟨text, stop⟩, htext, h⟩ := exists_of_bind_eq_ok h
  obtain ⟨last, hlast, h⟩ := exists_of_bind_eq_ok h
  obtain ⟨-, h⟩ := eq_of_guard_eq_ok h
  cases h
  obtain ⟨hstops, hrest⟩ := readUntil_expectText_eq_ok htext hlast
  refine ⟨text, .comment hstops, (rest_eq_of_startsWith hstarts hempty 3 (by simp)).trans ?_⟩
  simp only [hrest, Part.written_comment, List.append_assoc]

theorem readSection_eq_ok {hempty : cursor.rest ≠ []} {pieces : List Piece} {next : Beyond cursor}
    (h : cursor.readSection hempty = .ok (pieces, next))
    (hstarts : cursor.startsWith "<![CDATA[" = true) :
    ∃ content, (Part.marked content).Proper ∧ pieces = content.map .literal ∧
      cursor.rest = (Part.marked content).written ++ next.1.rest := by
  unfold readSection at h
  obtain ⟨⟨text, stop⟩, htext, h⟩ := exists_of_bind_eq_ok h
  obtain ⟨last, hlast, h⟩ := exists_of_bind_eq_ok h
  cases h
  obtain ⟨hstops, hrest⟩ := readUntil_expectText_eq_ok htext hlast
  refine ⟨text, .marked hstops, rfl, (rest_eq_of_startsWith hstarts hempty 8 (by simp)).trans ?_⟩
  simp only [hrest, Part.written_marked, List.append_assoc]

theorem stops_append {mark : String} {c : Char} {before content : List Char}
    (hmark : mark.toList.head? = some c) (hbefore : c ∉ before) (h : Part.Stops mark content) :
    Part.Stops mark (before ++ content) := by
  intro k hk hbegins
  rw [List.append_assoc] at hbegins
  by_cases hlt : k < before.length
  · rw [List.drop_append_of_le_length (Nat.le_of_lt hlt), List.drop_eq_getElem_cons hlt,
      List.cons_append] at hbegins
    obtain ⟨others, hothers⟩ := List.head?_eq_some_iff.mp hmark
    rw [hothers, List.cons_prefix_cons] at hbegins
    exact hbefore (hbegins.1 ▸ List.getElem_mem hlt)
  · rw [List.drop_append, List.drop_eq_nil_of_le (Nat.le_of_not_lt hlt), List.nil_append] at hbegins
    rw [List.length_append] at hk
    exact h (k - before.length) (by omega) hbegins

theorem readInstruction_eq_ok {hempty : cursor.rest ≠ []} {next : Beyond cursor}
    (h : cursor.readInstruction hempty = .ok next) (hstarts : cursor.startsWith "<?" = true) :
    ∃ content, (Part.instruction content).Proper ∧
      cursor.rest = (Part.instruction content).written ++ next.1.rest := by
  unfold readInstruction at h
  obtain ⟨hundeclared, h⟩ := eq_of_guard_eq_ok h
  obtain ⟨⟨name, afterName⟩, hname, h⟩ := exists_of_bind_eq_ok h
  obtain ⟨⟨text, stop⟩, htext, h⟩ := exists_of_bind_eq_ok h
  obtain ⟨last, hlast, h⟩ := exists_of_bind_eq_ok h
  cases h
  obtain ⟨hstops, hrest⟩ := readUntil_expectText_eq_ok htext hlast
  obtain ⟨spaces, hspaces, hcontent⟩ := exists_spaces afterName.1
  obtain ⟨named, hnamed⟩ := readName_eq_ok hname
  rw [hcontent, hrest] at hnamed
  have hrest : cursor.rest = (Part.instruction (name.toList ++ (spaces ++ text))).written ++
      last.1.rest := by
    refine (rest_eq_of_startsWith hstarts hempty 1 (by simp)).trans ?_
    simp only [hnamed, Part.written_instruction, List.append_assoc]
  refine ⟨_, .instruction ?_ ?_, hrest⟩
  · rw [← List.append_assoc]
    refine stops_append (c := '?') (by simp) ?_ hstops
    rw [List.mem_append]
    rintro (hmem | hmem)
    · cases named.2 _ hmem
    · cases hspaces _ hmem
  · rintro ⟨back, hback⟩
    refine hundeclared (List.isPrefixOf_iff_prefix.mpr ⟨back ++ ("?>".toList ++ last.1.rest), ?_⟩)
    rw [hrest, Part.written_instruction, ← hback]
    simp

theorem startsWith_of_head {c : Char} (h : cursor.rest.head? = some c) :
    cursor.startsWith (String.singleton c) = true := by
  obtain ⟨tail, htail⟩ := List.head?_eq_some_iff.mp h
  simp [startsWith, htail]

theorem readText_eq_ok {hempty : cursor.rest ≠ []} {pieces : List Piece} {next : Beyond cursor}
    (h : cursor.readText hempty = .ok (pieces, next)) (hstarts : cursor.startsWith "<" = false) :
    ∃ written, written ≠ [] ∧ '<' ∉ written ∧ Resolves written pieces ∧
      cursor.rest = written ++ next.1.rest ∧
      (next.1.rest = [] ∨ next.1.rest.head? = some '<') := by
  unfold readText at h
  obtain ⟨⟨run, stop⟩, hrun, h⟩ := exists_of_bind_eq_ok h
  obtain ⟨-, h⟩ := eq_of_guard_eq_ok h
  obtain ⟨read, hread, h⟩ := exists_of_bind_eq_ok h
  obtain ⟨hrest, -, hstop⟩ := readUntil_eq_ok hrun
  have hfilled : run ≠ [] := by
    rintro rfl
    rw [List.nil_append] at hrest
    rw [← hrest] at hstop
    rcases hstop with hnil | hhead
    · exact hempty hnil
    · exact Bool.false_ne_true
        (hstarts.symm.trans (startsWith_of_head (of_decide_eq_true hhead)))
  have hshort : stop.1.rest.length < cursor.rest.length := by
    have hlength := congrArg List.length hrest
    rw [List.length_append] at hlength
    have hpos := List.length_pos_iff.mpr hfilled
    omega
  rw [dif_pos hshort] at h
  cases h
  refine ⟨run, hfilled, not_mem_of_readUntil hrun (by simp), readPieces_eq_ok hread, hrest,
    hstop.imp_right of_decide_eq_true⟩

theorem readClose_eq_ok {hempty : cursor.rest ≠ []} {name : QName} {next : Beyond cursor}
    (h : cursor.readClose hempty = .ok (name, next)) (hstarts : cursor.startsWith "</" = true) :
    ∃ written, IsClose written name.name ∧ cursor.rest = written ++ next.1.rest := by
  unfold readClose at h
  obtain ⟨⟨read, afterName⟩, hname, h⟩ := exists_of_bind_eq_ok h
  obtain ⟨last, hlast, h⟩ := exists_of_bind_eq_ok h
  cases h
  obtain ⟨spaces, hspaces, hafter⟩ := exists_spaces afterName.1
  obtain ⟨written, named, hlocal, hrest⟩ := readQName_eq_ok hname
  rw [hafter, expect_eq_ok hlast] at hrest
  refine ⟨'<' :: '/' :: (written ++ (spaces ++ ['>'])), ?_,
    (rest_eq_of_startsWith hstarts hempty 1 (by simp)).trans ?_⟩
  · rw [hlocal]
    exact .intro named hspaces
  · rw [hrest]
    simp

/-!
What stands around the element.
-/

/-- Parts that may stand around an element, with the text going on behind them. -/
def MiscTo (cursor next : Cursor) : Prop :=
  ∃ parts : List Part, (∀ part ∈ parts, part.IsMisc) ∧ cursor.rest = writtenParts parts ++ next.rest

theorem miscTo_skipSpaces (cursor : Cursor) : cursor.MiscTo cursor.skipSpaces.1 := by
  obtain ⟨spaces, hspaces, hrest⟩ := exists_spaces cursor
  exact ⟨[.run spaces []], by simpa using .spaces hspaces, by simpa using hrest⟩

theorem MiscTo.of_part {part : Part} {next : Cursor} (hpart : part.IsMisc)
    (hrest : cursor.rest = part.written ++ next.rest) : cursor.MiscTo next :=
  ⟨[part], by simpa using hpart, by simpa using hrest⟩

theorem MiscTo.trans {a b c : Cursor} (first : a.MiscTo b) (second : b.MiscTo c) : a.MiscTo c := by
  obtain ⟨parts, hparts, hrest⟩ := first
  obtain ⟨others, hothers, hgoes⟩ := second
  refine ⟨parts ++ others, fun part hpart => ?_, ?_⟩
  · exact (List.mem_append.mp hpart).elim (hparts part) (hothers part)
  · rw [hrest, hgoes, writtenParts_append, List.append_assoc]

theorem miscTo_skipMisc {cursor : Cursor} {last : Onward cursor} (h : cursor.skipMisc = .ok last) :
    cursor.MiscTo last.1 := by
  unfold skipMisc at h
  extract_lets start at h
  split at h
  · obtain rfl : cursor.skipSpaces = last := Except.ok.inj h
    exact miscTo_skipSpaces cursor
  split at h
  · next hstarts =>
    obtain ⟨next, hnext, h⟩ := exists_of_bind_eq_ok h
    obtain ⟨last, hlast, h⟩ := exists_of_bind_eq_ok h
    cases h
    obtain ⟨content, hproper, hcomment⟩ := readComment_eq_ok hnext hstarts
    exact (miscTo_skipSpaces cursor).trans
      ((MiscTo.of_part (.comment hproper) hcomment).trans (miscTo_skipMisc hlast))
  split at h
  · next hstarts =>
    obtain ⟨next, hnext, h⟩ := exists_of_bind_eq_ok h
    obtain ⟨last, hlast, h⟩ := exists_of_bind_eq_ok h
    cases h
    obtain ⟨content, hproper, hinstruction⟩ := readInstruction_eq_ok hnext hstarts
    exact (miscTo_skipSpaces cursor).trans
      ((MiscTo.of_part (.instruction hproper) hinstruction).trans (miscTo_skipMisc hlast))
  · obtain rfl : cursor.skipSpaces = last := Except.ok.inj h
    exact miscTo_skipSpaces cursor
termination_by cursor.size
decreasing_by
  all_goals exact Nat.lt_of_lt_of_le next.2 cursor.skipSpaces.2

theorem not_mem_of_isAttribute {written : List Char} (h : IsAttribute written) :
    '<' ∉ written := by
  obtain ⟨named, spacedBefore, spacedAfter, quotes, plain⟩ := h
  have hname := fun hmem => Bool.false_ne_true (named.2 '<' hmem)
  simp only [List.mem_append, List.mem_cons, not_or]
  refine ⟨hname, spacedBefore.not_mem rfl, by decide, spacedAfter.not_mem rfl, ?_, plain.2, ?_,
    by simp⟩
  all_goals rcases quotes with rfl | rfl <;> decide

/-- What has been read is no tag. -/
def Passes (cursor next : Cursor) : Prop := ∃ read, '<' ∉ read ∧ cursor.rest = read ++ next.rest

theorem Passes.refl (cursor : Cursor) : cursor.Passes cursor := ⟨[], by simp, rfl⟩

theorem Passes.trans {a b c : Cursor} (first : a.Passes b) (second : b.Passes c) : a.Passes c := by
  obtain ⟨read, hread, hrest⟩ := first
  obtain ⟨more, hmore, hothers⟩ := second
  exact ⟨read ++ more, by simp [hread, hmore], by rw [hrest, hothers, List.append_assoc]⟩

theorem passes_skipSpaces (cursor : Cursor) : cursor.Passes cursor.skipSpaces.1 := by
  obtain ⟨spaces, hspaces, hrest⟩ := exists_spaces cursor
  exact ⟨spaces, hspaces.not_mem rfl, hrest⟩

theorem passes_readRawAttribute {name : QName} {value : Cursor} {run : List Char}
    {next : Beyond cursor} (h : cursor.readRawAttribute = .ok (name, value, run, next)) :
    cursor.Passes next.1 := by
  obtain ⟨written, here, hrest⟩ := readRawAttribute_eq_ok h
  exact ⟨written, not_mem_of_isAttribute here, hrest⟩

theorem passes_separate {next : Onward cursor} (h : readDeclaration.separate cursor = .ok next) :
    cursor.Passes next.1 := by
  unfold readDeclaration.separate at h
  split at h
  · cases h
    exact .refl cursor
  · split at h
    · cases h
      exact passes_skipSpaces cursor
    · split at h
      · cases h
        exact .refl cursor
      · cases h

theorem passes_optionalAttribute {name : String} {next : Onward cursor}
    (h : readDeclaration.optionalAttribute cursor name = .ok next) : cursor.Passes next.1 := by
  unfold readDeclaration.optionalAttribute at h
  split at h
  · obtain ⟨⟨q, value, run, last⟩, hraw, h⟩ := exists_of_bind_eq_ok h
    cases h
    exact passes_readRawAttribute hraw
  · cases h
    exact .refl cursor

theorem readDeclaration_eq_ok {next : Onward cursor} (h : cursor.readDeclaration = .ok next)
    (hstarts : cursor.startsWith "<?xml " = true) :
    ∃ declaration, IsDeclaration declaration ∧ cursor.rest = declaration ++ next.1.rest := by
  unfold readDeclaration at h
  obtain ⟨before, hbefore, h⟩ := exists_of_bind_eq_ok h
  obtain ⟨-, h⟩ := eq_of_guard_eq_ok h
  obtain ⟨⟨q, value, run, version⟩, hversion, h⟩ := exists_of_bind_eq_ok h
  obtain ⟨afterVersion, hafterVersion, h⟩ := exists_of_bind_eq_ok h
  obtain ⟨encoding, hencoding, h⟩ := exists_of_bind_eq_ok h
  extract_lets goOn at h
  obtain ⟨afterEncoding, hencoded, h⟩ : ∃ afterEncoding : Onward encoding.1,
      encoding.1.Passes afterEncoding.1 ∧ goOn afterEncoding = .ok next := by
    split at h
    · obtain ⟨afterEncoding, hafterEncoding, h⟩ := exists_of_bind_eq_ok h
      exact ⟨afterEncoding, passes_separate hafterEncoding, h⟩
    · exact ⟨encoding.1.stay, .refl _, h⟩
  obtain ⟨standalone, hstandalone, h⟩ := exists_of_bind_eq_ok h
  obtain ⟨last, hlast, h⟩ := exists_of_bind_eq_ok h
  cases h
  obtain ⟨content, hcontent, hrest⟩ :=
    (passes_separate hbefore).trans <| (passes_readRawAttribute hversion).trans <|
      (passes_separate hafterVersion).trans <| (passes_optionalAttribute hencoding).trans <|
        hencoded.trans <| (passes_optionalAttribute hstandalone).trans <| passes_skipSpaces _
  obtain ⟨back, hback⟩ := exists_of_startsWith hstarts
  rw [expectText_eq_ok hlast] at hrest
  have hspace : (cursor.skip 5).1.rest = ' ' :: back := by
    rw [rest_skip, hback]
    simp
  cases content with
  | nil => cases hspace.symm.trans hrest
  | cons c content =>
      rw [hspace, List.cons_append] at hrest
      obtain ⟨rfl, rfl⟩ := List.cons.inj hrest
      refine ⟨_, ⟨content, rfl, fun hmem => hcontent (List.mem_cons_of_mem _ hmem)⟩, ?_⟩
      simp only [hback, List.append_assoc]

end Cursor

end Colloquy
