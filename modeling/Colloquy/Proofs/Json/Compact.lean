import Colloquy.Json.Any
import Colloquy.Proofs.Json.ReadBack

/-!
Compact texts of values of any kind: they are read back as they were, and have no line breaks.
-/

namespace Colloquy.Json

/-- A value that can be read where so many levels are left, counted with the one that is refused. -/
inductive Fits : Nat → Json → Prop where
  | null {depth : Nat} : Fits depth .null
  | boolean {depth : Nat} (value : Bool) : Fits depth (.boolean value)
  | natural {depth value : Nat} (small : value < wordBound) : Fits depth (.natural value)
  | text {depth : Nat} (value : String) : Fits depth (.text value)
  | list {depth : Nat} {items : List Json} (inner : ∀ item ∈ items, Fits (depth + 1) item) :
      Fits (depth + 2) (.list items)
  | object {depth : Nat} {members : List (String × Json)}
      (inner : ∀ member ∈ members, Fits (depth + 1) member.2) : Fits (depth + 2) (.object members)

variable {depth : Nat} {json : Json}

theorem Fits.nil : Fits (depth + 2) (.object []) := by
  refine .object fun member hmember => ?_
  cases hmember

theorem Fits.cons {key : String} {value : Json} {members : List (String × Json)}
    (hvalue : Fits (depth + 1) value) (hrest : Fits (depth + 2) (.object members)) :
    Fits (depth + 2) (.object ((key, value) :: members)) := by
  cases hrest with
  | object inner => exact .object (List.forall_mem_cons.mpr ⟨hvalue, inner⟩)

/-- The compact text of a value is read back as the value; it cannot be taken for blanks or for the
end of a list. -/
structure Restores (depth : Nat) (json : Json) : Prop where
  start : ∃ c more, json.compactChars = c :: more ∧ isBlank c = false ∧ c ≠ ']'
  read : ∀ blanks rest, (∀ c ∈ blanks, isBlank c = true) → EndsNumber rest →
    ∃ hlt, readValue depth (blanks ++ (json.compactChars ++ rest)) = .ok (json, ⟨rest, hlt⟩)

theorem Restores.readsEnded (h : Restores depth json) :
    ReadsEnded (readAny depth) json.compactChars json := by
  intro blanks rest hblanks hrest
  obtain ⟨hlt, hread⟩ := h.read blanks rest hblanks hrest
  refine ⟨Nat.le_of_lt hlt, ?_⟩
  rw [readAny, hread]
  rfl

section

variable {input rest : List Char} {c : Char}

/-- What the first character of a value tells about it. -/
theorem readValue_of_start (depth : Nat) (h : (skipBlanks input).1 = c :: rest) :
    ∃ hlt : rest.length < input.length,
      let beyond : Left rest → Less input := fun left => ⟨left.1, Nat.lt_of_le_of_lt left.2 hlt⟩
      readValue depth input =
        if c = 'n' then (readWord "ull".toList rest).map fun left => (.null, beyond left)
        else if c = 't' then
          (readWord "rue".toList rest).map fun left => (.boolean true, beyond left)
        else if c = 'f' then
          (readWord "alse".toList rest).map fun left => (.boolean false, beyond left)
        else if c = '-' then
          (readNumber false rest).map fun (number, left) => (ofNumber number, beyond left)
        else if c = '"' then
          (readCharacters rest).map fun (cs, left) => (.text (String.ofList cs), beyond left)
        else if c.isDigit then
          (readNumber true (c :: rest)).bind fun (number, left) =>
            if h : left.1.length < input.length then .ok (ofNumber number, ⟨left.1, h⟩)
            else .error (.before left.1 .invalidNumber)
        else if c = '[' then
          if depth ≤ 1 then .error (.past (c :: rest) .tooDeep)
          else (readItems (depth - 1) rest true).map fun (items, left) =>
            (.list items, beyond left)
        else if c = '{' then
          if depth ≤ 1 then .error (.past (c :: rest) .tooDeep)
          else (readProperties (depth - 1) rest true).map fun (members, left) =>
            (.object members, beyond left)
        else .error (.past (c :: rest) .expectedValue) := by
  have hlt := (skipBlanks input).2
  rw [h] at hlt
  refine ⟨hlt, ?_⟩
  rw [readValue]
  dsimp only
  split
  · next hnil => cases hnil.symm.trans h
  · next first more hcons =>
    obtain ⟨rfl, rfl⟩ := List.cons.inj (hcons.symm.trans h)
    rfl

end

/-- It is enough to look at a value without the blanks before it. -/
theorem restores_of_start (c : Char) (more : List Char) (hwritten : json.compactChars = c :: more)
    (hblank : isBlank c = false) (hend : c ≠ ']')
    (hvalue : ∀ {input rest : List Char}, EndsNumber rest →
      (skipBlanks input).1 = c :: (more ++ rest) →
        ∃ hlt, readValue depth input = .ok (json, ⟨rest, hlt⟩)) :
    Restores depth json where
  start := ⟨c, more, hwritten, hblank, hend⟩
  read := by
    intro blanks rest hblanks hrest
    rw [hwritten]
    apply hvalue hrest
    exact congrArg Subtype.val (skipBlanks_append hblanks hblank (more ++ rest))

/-!
Words, numbers and texts.
-/

theorem readWord_append (word rest : List Char) :
    ∃ hle, readWord word (word ++ rest) = .ok ⟨rest, hle⟩ := by
  induction word with
  | nil => exact ⟨Nat.le_refl _, by cases rest <;> rfl⟩
  | cons c word ih =>
      obtain ⟨hle, hread⟩ := ih
      refine ⟨Nat.le_succ_of_le hle, ?_⟩
      simp [readWord, hread, Except.map]

theorem restores_word {c : Char} {word : List Char} (hwritten : json.compactChars = c :: word)
    (hblank : isBlank c = false) (hend : c ≠ ']')
    (hvalue : ∀ {input rest : List Char}, (skipBlanks input).1 = c :: rest →
      ∃ hlt : rest.length < input.length, readValue depth input =
        (readWord word rest).map fun left => (json, ⟨left.1, Nat.lt_of_le_of_lt left.2 hlt⟩)) :
    Restores depth json := by
  refine restores_of_start c word hwritten hblank hend fun {_ rest} _ hstart => ?_
  obtain ⟨hlt, hread⟩ := hvalue hstart
  obtain ⟨hle, hword⟩ := readWord_append word rest
  exact ⟨Nat.lt_of_le_of_lt hle hlt, by rw [hread, hword]; rfl⟩

theorem restores_null (depth : Nat) : Restores depth .null := by
  have hwritten : Json.null.compactChars = 'n' :: "ull".toList := by simp [compactChars]
  exact restores_word hwritten (by decide) (by decide) fun hstart => readValue_of_start depth hstart

theorem restores_boolean (depth : Nat) (value : Bool) : Restores depth (.boolean value) := by
  cases value with
  | true =>
      have hwritten : (Json.boolean true).compactChars = 't' :: "rue".toList := by
        simp [compactChars]
      exact restores_word hwritten (by decide) (by decide) fun hstart =>
        readValue_of_start depth hstart
  | false =>
      have hwritten : (Json.boolean false).compactChars = 'f' :: "alse".toList := by
        simp [compactChars]
      exact restores_word hwritten (by decide) (by decide) fun hstart =>
        readValue_of_start depth hstart

theorem restores_natural {value : Nat} (hsmall : value < wordBound) :
    Restores depth (.natural value) := by
  obtain ⟨c, more, hcons, hdigit⟩ := exists_cons_toDigits value
  have hne : ∀ other : Char, other.isDigit = false → c ≠ other := by
    rintro other hother rfl
    cases hdigit.symm.trans hother
  refine restores_of_start c more ?_ (isBlank_of_isDigit hdigit)
    (hne ']' (by decide)) fun {input rest} hrest hstart => ?_
  · rw [compactChars, Nat.toString_eq_repr, Nat.toList_repr, hcons]
  · obtain ⟨hlt, hread⟩ := readValue_of_start depth hstart
    have hnumber := readNumber_toDigits hsmall hrest
    rw [hcons, List.cons_append] at hnumber
    obtain ⟨hle, hnumber⟩ := hnumber
    have hshorter : rest.length < input.length := by
      have hlength := (skipBlanks input).2
      rw [hstart] at hlength
      simp at hlength
      omega
    simp only [hne 'n' (by decide), hne 't' (by decide), hne 'f' (by decide), hne '-' (by decide),
      hne '"' (by decide), hdigit, if_false, if_true, hnumber, Except.bind, ofNumber, hshorter,
      dif_pos] at hread
    exact ⟨hshorter, hread⟩

theorem restores_text (depth : Nat) (value : String) : Restores depth (.text value) := by
  refine restores_of_start '"' (value.toList.flatMap escape ++ ['"'])
    (by simp [compactChars, quoted]) (by decide) (by decide) fun {input rest} _ hstart => ?_
  obtain ⟨hle, hcharacters⟩ := readCharacters_flatMap_escape value.toList rest
  rw [List.append_assoc] at hstart
  obtain ⟨hlt, hread⟩ := readValue_of_start depth hstart
  simp only [Char.reduceEq, if_false, if_true, List.singleton_append, hcharacters,
    Except.map, String.ofList_toList] at hread
  exact ⟨Nat.lt_of_le_of_lt hle hlt, hread⟩

/-!
Lists.
-/

section

variable {input : List Char} {first : Bool}

theorem nextItem_of_bracket (first : Bool) (rest : List Char) :
    ∃ hlt, nextItem (']' :: rest) first = .ok (.stop ⟨rest, hlt⟩) :=
  ⟨Nat.lt_succ_self _, rfl⟩

theorem nextItem_of_start {c : Char} (hblank : isBlank c = false) (hend : c ≠ ']') (first : Bool)
    (rest : List Char) :
    ∃ hle, nextItem ((if first then [] else [',']) ++ c :: rest) first =
      .ok (.item ⟨c :: rest, hle⟩) := by
  have hstart : (skipBlanks (c :: rest)).1 = c :: rest := by simp [skipBlanks, hblank]
  cases first with
  | true =>
      refine ⟨Nat.le_refl _, ?_⟩
      change nextItem (c :: rest) true = _
      unfold nextItem
      dsimp only
      split
      · next hnil => cases hnil.symm.trans hstart
      · next d more hcons =>
        obtain ⟨rfl, rfl⟩ := List.cons.inj (hcons.symm.trans hstart)
        simp only [hend, if_false, if_true, Except.ok.injEq, ItemStart.item.injEq]
        exact Subtype.ext hstart
  | false =>
      refine ⟨Nat.le_succ _, ?_⟩
      change nextItem (',' :: c :: rest) false = _
      unfold nextItem
      dsimp only
      split
      · next hnil => cases hnil
      · next comma more hcomma =>
        obtain ⟨rfl, rfl⟩ := List.cons.inj (hcomma : ',' :: c :: rest = comma :: more)
        simp [hstart, hend]

theorem readItems_of_stop {rest : Less input} (h : nextItem input first = .ok (.stop rest)) :
    readItems depth input first = .ok ([], ⟨rest.1, Nat.le_of_lt rest.2⟩) := by
  rw [readItems]
  simp only [h]

theorem readItems_of_item {start : Left input} {item : Json} {next : Less start.1}
    {items : List Json} {last : Left next.1} (h : nextItem input first = .ok (.item start))
    (hvalue : readValue depth start.1 = .ok (item, next))
    (hrest : readItems depth next.1 false = .ok (items, last)) :
    ∃ hle, readItems depth input first = .ok (item :: items, ⟨last.1, hle⟩) := by
  have hlength : last.1.length ≤ input.length :=
    Nat.le_trans last.2 (Nat.le_trans (Nat.le_of_lt next.2) start.2)
  refine ⟨hlength, ?_⟩
  rw [readItems]
  simp only [h, hvalue, hrest, Except.map]

end

/-- The items of a list with its end; a comma sets them off from those before. -/
def writtenItems (first : Bool) (items : List Json) : List Char :=
  (if first || items.isEmpty then [] else [',']) ++ compactItems items

theorem writtenItems_cons_append (first : Bool) (item : Json) (items : List Json)
    (rest : List Char) :
    writtenItems first (item :: items) ++ rest = (if first then [] else [',']) ++
      (compactChars item ++ (writtenItems false items ++ rest)) := by
  simp [writtenItems, compactItems, List.append_assoc]

theorem endsNumber_writtenItems (items : List Json) (rest : List Char) :
    EndsNumber (writtenItems false items ++ rest) := by
  cases items with
  | nil => exact .cons (by decide) rest
  | cons item items =>
      rw [writtenItems_cons_append]
      exact .cons (by decide) _

theorem readItems_writtenItems {items : List Json} (hitems : ∀ item ∈ items, Restores depth item)
    (first : Bool) (rest : List Char) :
    ∃ hle, readItems depth (writtenItems first items ++ rest) first =
      .ok (items, ⟨rest, hle⟩) := by
  induction items generalizing first with
  | nil =>
      have hwritten : writtenItems first [] ++ rest = ']' :: rest := by
        simp [writtenItems, compactItems]
      rw [hwritten]
      obtain ⟨hlt, hstop⟩ := nextItem_of_bracket first rest
      exact ⟨Nat.le_of_lt hlt, readItems_of_stop hstop⟩
  | cons item items ih =>
      obtain ⟨_, hrest⟩ := ih (fun other hother => hitems other (List.mem_cons_of_mem _ hother))
        false
      have hitem := hitems item List.mem_cons_self
      obtain ⟨c, more, hwritten, hblank, hend⟩ := hitem.start
      have hvalue := hitem.read [] _ (by simp) (endsNumber_writtenItems items rest)
      rw [List.nil_append, hwritten, List.cons_append] at hvalue
      obtain ⟨_, hvalue⟩ := hvalue
      obtain ⟨_, hstart⟩ := nextItem_of_start hblank hend first
        (more ++ (writtenItems false items ++ rest))
      rw [writtenItems_cons_append, hwritten, List.cons_append]
      exact readItems_of_item hstart hvalue hrest

theorem restores_list {items : List Json} (hitems : ∀ item ∈ items, Restores (depth + 1) item) :
    Restores (depth + 2) (.list items) := by
  have hwritten : (Json.list items).compactChars = '[' :: writtenItems true items := by
    simp [compactChars, writtenItems]
  refine restores_of_start _ _ hwritten (by decide) (by decide) fun {input rest} _ hstart => ?_
  obtain ⟨hle, hread⟩ := readItems_writtenItems hitems true rest
  obtain ⟨hlt, hvalue⟩ := readValue_of_start (depth + 2) hstart
  have hlevels : ¬ depth + 2 ≤ 1 := by omega
  simp only [Char.reduceEq, show '['.isDigit = false by decide, Bool.false_eq_true, if_false,
    if_true, hlevels, Nat.add_one_sub_one, hread, Except.map] at hvalue
  exact ⟨Nat.lt_of_le_of_lt hle hlt, hvalue⟩

/-!
Objects.
-/

section

variable {input : List Char} {first : Bool}

theorem readProperties_of_stop {rest : Less input}
    (h : nextMember input first = .ok (.stop rest)) :
    readProperties depth input first = .ok ([], ⟨rest.1, Nat.le_of_lt rest.2⟩) := by
  rw [readProperties]
  simp only [h]

theorem readProperties_of_key {start : Less input} {key : String} {value : Json}
    {afterKey : Left start.1} {colon : Left afterKey.1} {next : Less colon.1}
    {members : List (String × Json)} {last : Left next.1}
    (h : nextMember input first = .ok (.key start)) (hkey : readKey start.1 = .ok (key, afterKey))
    (hcolon : expectColon afterKey.1 = .ok colon)
    (hvalue : readValue depth colon.1 = .ok (value, next))
    (hrest : readProperties depth next.1 false = .ok (members, last)) :
    ∃ hle, readProperties depth input first = .ok ((key, value) :: members, ⟨last.1, hle⟩) := by
  refine ⟨length_le_of_member colon (Nat.le_trans last.2 (Nat.le_of_lt next.2)), ?_⟩
  rw [readProperties]
  simp only [h, hkey, hcolon, hvalue, hrest, Except.map]

end

theorem readProperties_members (layout : Layout) {members : List (String × Json)}
    (hmembers : ∀ member ∈ members, Restores depth member.2) (first : Bool) (rest : List Char) :
    ∃ hle, readProperties depth (layout.members compactChars first members ++ rest) first =
      .ok (members, ⟨rest, hle⟩) := by
  induction members generalizing first with
  | nil =>
      obtain ⟨hlt, hstop⟩ := nextMember_members_nil first rest
      exact ⟨Nat.le_of_lt hlt, readProperties_of_stop hstop⟩
  | cons member members ih =>
      obtain ⟨key, value⟩ := member
      obtain ⟨_, hrest⟩ := ih
        (fun other hother => hmembers other (List.mem_cons_of_mem _ hother)) false
      obtain ⟨_, hvalue⟩ := (hmembers (key, value) List.mem_cons_self).read layout.space _
        layout.space_blank (Layout.endsNumber_members members rest)
      obtain ⟨_, hkey⟩ := readKey_quoted key _
      obtain ⟨_, hstart⟩ := nextMember_gap layout first _
      rw [Layout.members_cons_append]
      exact readProperties_of_key hstart hkey (expectColon_cons _) hvalue hrest

theorem restores_object {members : List (String × Json)}
    (hmembers : ∀ member ∈ members, Restores (depth + 1) member.2) :
    Restores (depth + 2) (.object members) := by
  have hwritten : (Json.object members).compactChars =
      '{' :: (Style.compact.layout 0).members compactChars true members := by
    have heq := compactMembers_eq 0 true members
    simp only [Bool.true_or, if_true, List.nil_append] at heq
    rw [compactChars, heq]
  refine restores_of_start _ _ hwritten (by decide) (by decide) fun {input rest} _ hstart => ?_
  obtain ⟨hle, hread⟩ := readProperties_members (Style.compact.layout 0) hmembers true rest
  obtain ⟨hlt, hvalue⟩ := readValue_of_start (depth + 2) hstart
  have hlevels : ¬ depth + 2 ≤ 1 := by omega
  simp only [Char.reduceEq, show '{'.isDigit = false by decide, Bool.false_eq_true, if_false,
    if_true, hlevels, Nat.add_one_sub_one, hread, Except.map] at hvalue
  exact ⟨Nat.lt_of_le_of_lt hle hlt, hvalue⟩

theorem Fits.restores (h : Fits depth json) : Restores depth json := by
  induction h with
  | null => exact restores_null _
  | boolean value => exact restores_boolean _ value
  | natural small => exact restores_natural small
  | text value => exact restores_text _ value
  | list inner ih => exact restores_list ih
  | object inner ih => exact restores_object ih

/-- A value that fits is read from its compact text as it was. -/
theorem Fits.readsEnded (h : Fits depth json) :
    ReadsEnded (readAny depth) json.compactChars json :=
  h.restores.readsEnded

/-!
One line.
-/

/-- None of the characters is a control character, such as a line break. -/
def Printable (cs : List Char) : Prop := ∀ c ∈ cs, 0x20 ≤ c.toNat

@[simp] theorem printable_nil : Printable [] := by
  intro c hc
  cases hc

@[simp] theorem printable_cons {c : Char} {cs : List Char} :
    Printable (c :: cs) ↔ 0x20 ≤ c.toNat ∧ Printable cs := by
  simp [Printable]

@[simp] theorem printable_append {cs more : List Char} :
    Printable (cs ++ more) ↔ Printable cs ∧ Printable more := by
  simp [Printable, or_imp, forall_and]

theorem printable_escape (c : Char) : Printable (escape c) := by
  have hhex : ∀ n : Fin 16, 0x20 ≤ (hexDigit n.val).toNat := by decide
  rcases escape_cases c with ⟨letter, hescape, _, hlookup⟩ | ⟨hcontrol, hescape⟩ |
    ⟨_, _, hcontrol, hescape⟩
  · have hletters : ∀ entry ∈ shortEscapes, 0x20 ≤ entry.1.toNat := by decide
    obtain ⟨front, back, hentries, _⟩ := List.lookup_eq_some_iff.mp hlookup
    have hletter := hletters (letter, c) (by simp [hentries])
    simp [hescape, hletter]
  · have hhigh := hhex ⟨c.toNat / 16, by omega⟩
    have hlow := hhex ⟨c.toNat % 16, by omega⟩
    simp [hescape, hhigh, hlow]
  · simp [hescape]
    omega

theorem printable_quoted (s : String) : Printable (quoted s) := by
  have hescaped : Printable (s.toList.flatMap escape) := by
    intro c hc
    obtain ⟨d, _, hd⟩ := List.mem_flatMap.mp hc
    exact printable_escape d c hd
  simp [quoted, hescaped]

theorem printable_compactItems {items : List Json}
    (hitems : ∀ item ∈ items, Printable item.compactChars) : Printable (compactItems items) := by
  induction items with
  | nil => simp [compactItems]
  | cons item items ih =>
      have hitem := hitems item List.mem_cons_self
      have hrest := ih fun other hother => hitems other (List.mem_cons_of_mem _ hother)
      rw [compactItems]
      split <;> simp [hitem, hrest]

theorem printable_compactMembers {members : List (String × Json)}
    (hmembers : ∀ member ∈ members, Printable member.2.compactChars) :
    Printable (compactMembers members) := by
  induction members with
  | nil => simp [compactMembers]
  | cons member members ih =>
      obtain ⟨key, value⟩ := member
      have hvalue := hmembers (key, value) List.mem_cons_self
      have hrest := ih fun other hother => hmembers other (List.mem_cons_of_mem _ hother)
      rw [compactMembers]
      split <;> simp [printable_quoted, hvalue, hrest]

theorem printable_toDigits (n : Nat) : Printable (Nat.toDigits 10 n) := by
  intro c hc
  have hdigit : c.isDigit = true := Nat.isDigit_of_mem_toDigits (by decide) (by decide) hc
  have hzero := (Char.isDigit_iff_toNat.mp hdigit).1
  exact Nat.le_trans (by decide) hzero

theorem Fits.printable (h : Fits depth json) : Printable json.compactChars := by
  induction h with
  | null => simp [compactChars]
  | boolean value => cases value <;> simp [compactChars]
  | @natural depth value small =>
      rw [compactChars, Nat.toString_eq_repr, Nat.toList_repr]
      exact printable_toDigits value
  | text value => simpa [compactChars] using printable_quoted value
  | list inner ih => simpa [compactChars] using printable_compactItems ih
  | object inner ih => simpa [compactChars] using printable_compactMembers ih

end Colloquy.Json
