import Colloquy.Proofs.Dict
import Colloquy.Proofs.Json.Characters
import Colloquy.Proofs.Json.Numerals
import Colloquy.Routing.Written

/-!
Reading values back from what was written, compactly or over several lines: texts, dictionaries and
records.
-/

namespace Colloquy.Json

variable {α β : Type}

/-- What is written is read as the value, whatever blanks come before and whatever comes behind. -/
def Reads (reader : Reader α) (written : List Char) (value : α) : Prop :=
  ∀ blanks rest, (∀ c ∈ blanks, isBlank c = true) →
    ∃ hle, reader (blanks ++ (written ++ rest)) = .ok (value, ⟨rest, hle⟩)

/-- The same, as long as what comes behind is not taken for the rest of a number. -/
def ReadsEnded (reader : Reader α) (written : List Char) (value : α) : Prop :=
  ∀ blanks rest, (∀ c ∈ blanks, isBlank c = true) → EndsNumber rest →
    ∃ hle, reader (blanks ++ (written ++ rest)) = .ok (value, ⟨rest, hle⟩)

theorem Reads.ended {reader : Reader α} {written : List Char} {value : α}
    (h : Reads reader written value) : ReadsEnded reader written value :=
  fun blanks rest hblanks _ => h blanks rest hblanks

theorem Reads.map {reader : Reader α} {written : List Char} {value : α}
    (h : Reads reader written value) (mapped : Reader β) (f : α → β)
    (hmapped : ∀ input, mapped input = (reader input).map fun (value, rest) => (f value, rest)) :
    Reads mapped written (f value) := by
  intro blanks rest hblanks
  obtain ⟨hle, hread⟩ := h blanks rest hblanks
  refine ⟨hle, ?_⟩
  rw [hmapped, hread]
  rfl

/-!
Blanks.
-/

theorem skipBlanks_append {blanks : List Char} (hblanks : ∀ c ∈ blanks, isBlank c = true) {c : Char}
    (hc : isBlank c = false) (rest : List Char) :
    skipBlanks (blanks ++ c :: rest) =
      ⟨c :: rest, (List.suffix_append blanks (c :: rest)).length_le⟩ := by
  apply Subtype.ext
  simp [skipBlanks, List.dropWhile_append_of_pos hblanks, hc]

theorem toValue_append {blanks : List Char} (hblanks : ∀ c ∈ blanks, isBlank c = true) {c : Char}
    (hc : isBlank c = false) (rest : List Char) :
    toValue (blanks ++ c :: rest) =
      .ok ⟨c :: rest, (List.suffix_append blanks (c :: rest)).length_le⟩ := by
  simp [toValue, skipBlanks_append hblanks hc]

theorem endsNumber_blanks {blanks : List Char} (hblanks : ∀ c ∈ blanks, isBlank c = true)
    {rest : List Char} (hrest : EndsNumber rest) : EndsNumber (blanks ++ rest) := by
  cases blanks with
  | nil => exact hrest
  | cons c blanks =>
      have hc : c = ' ' ∨ c = '\n' ∨ c = '\t' ∨ c = '\r' := by
        simpa [isBlank, or_assoc] using hblanks c List.mem_cons_self
      apply EndsNumber.cons
      rcases hc with rfl | rfl | rfl | rfl <;> decide

theorem isBlank_of_mem_breakLine {level : Nat} {c : Char} (h : c ∈ breakLine level) :
    isBlank c = true := by
  rcases List.mem_cons.mp h with rfl | hblank
  · decide
  · rw [List.eq_of_mem_replicate hblank]
    decide

/-!
Numbers and texts.
-/

theorem isBlank_of_isDigit {c : Char} (h : c.isDigit = true) : isBlank c = false := by
  have hne : ∀ other : Char, other.isDigit = false → c ≠ other := by
    rintro other hother rfl
    cases h.symm.trans hother
  simp [isBlank, hne ' ' (by decide), hne '\n' (by decide), hne '\t' (by decide),
    hne '\r' (by decide)]

theorem readsEnded_toDigits {n : Nat} (hn : n < wordBound) :
    ReadsEnded readNatural (Nat.toDigits 10 n) n := by
  intro blanks rest hblanks hrest
  obtain ⟨c, more, hcons, hdigit⟩ := exists_cons_toDigits n
  have hnumber := readNumber_toDigits hn hrest
  rw [hcons, List.cons_append] at hnumber ⊢
  obtain ⟨hle, hnumber⟩ := hnumber
  have hstarts : startsWithDigit (c :: (more ++ rest)) = true := by
    simpa [startsWithDigit] using hdigit
  refine ⟨?_, ?_⟩
  · simp
    omega
  · simp only [readNatural, toValue_append hblanks (isBlank_of_isDigit hdigit), hstarts, hnumber,
      bind, Except.bind, pure, Except.pure, if_true]
    rfl

theorem reads_quoted (s : String) : Reads readText (quoted s) s := by
  intro blanks rest hblanks
  obtain ⟨hle, hcharacters⟩ := readCharacters_flatMap_escape s.toList rest
  have hwritten : quoted s ++ rest = '"' :: (s.toList.flatMap escape ++ '"' :: rest) := by
    simp [quoted]
  rw [hwritten]
  refine ⟨by simp; omega, ?_⟩
  simp only [readText, toValue_append hblanks (show isBlank '"' = false by decide), hcharacters,
    bind, Except.bind, pure, Except.pure, String.ofList_toList]

theorem readKey_quoted (key : String) (rest : List Char) :
    ∃ hle, readKey (key.toList.flatMap escape ++ '"' :: rest) = .ok (key, ⟨rest, hle⟩) := by
  obtain ⟨hle, hcharacters⟩ := readCharacters_flatMap_escape key.toList rest
  refine ⟨hle, ?_⟩
  simp only [readKey, hcharacters, bind, Except.bind, pure, Except.pure, String.ofList_toList]

theorem expectColon_cons (rest : List Char) :
    expectColon (':' :: rest) = .ok ⟨rest, Nat.le_succ _⟩ := rfl

/-- What is left behind the value of a member is part of what was there before its key. -/
theorem length_le_of_member {input : List Char} {start : Less input} {afterKey : Left start.1}
    (colon : Left afterKey.1) {rest : List Char} (h : rest.length ≤ colon.1.length) :
    rest.length ≤ input.length :=
  calc rest.length
    _ ≤ colon.1.length := h
    _ ≤ afterKey.1.length := colon.2
    _ ≤ start.1.length := afterKey.2
    _ ≤ input.length := Nat.le_of_lt start.2

/-!
Objects.
-/

/-- The blanks that set off the members of an object, their values and its end. -/
structure Layout where
  gap : List Char
  space : List Char
  stop : List Char
  gap_blank : ∀ c ∈ gap, isBlank c = true
  space_blank : ∀ c ∈ space, isBlank c = true
  stop_blank : ∀ c ∈ stop, isBlank c = true

/-- The members of an object with its end; a comma sets them off from those before. -/
def Layout.members (layout : Layout) (write : α → List Char) (first : Bool) :
    List (String × α) → List Char
  | [] => layout.stop ++ ['}']
  | (key, value) :: members =>
    (if first then [] else [',']) ++ (layout.gap ++ (quoted key ++ ':' :: (layout.space ++
      (write value ++ layout.members write false members))))

inductive Style where
  | compact
  | pretty

/-- How a value is written; `level` is the depth at which it stands. -/
def Style.chars : Style → Nat → Json → List Char
  | .compact, _ => compactChars
  | .pretty, level => prettyChars level

def Style.layout : Style → Nat → Layout
  | .compact, _ => ⟨[], [], [], by simp, by simp, by simp⟩
  | .pretty, level =>
    ⟨breakLine (level + 1), [' '], breakLine level, fun _ => isBlank_of_mem_breakLine,
      by simp [isBlank], fun _ => isBlank_of_mem_breakLine⟩

theorem Style.reads_text (style : Style) (level : Nat) (s : String) :
    Reads readText (style.chars level (.text s)) s := by
  have hquoted := reads_quoted s
  cases style with
  | compact => rwa [chars, compactChars]
  | pretty => rwa [chars, prettyChars]

theorem Style.readsEnded_natural (style : Style) (level : Nat) {n : Nat} (hn : n < wordBound) :
    ReadsEnded readNatural (style.chars level (.natural n)) n := by
  have hdigits := readsEnded_toDigits hn
  cases style with
  | compact => rwa [chars, compactChars, Nat.toString_eq_repr, Nat.toList_repr]
  | pretty => rwa [chars, prettyChars, Nat.toString_eq_repr, Nat.toList_repr]

theorem Style.chars_object_nil (style : Style) (level : Nat) :
    style.chars level (.object []) = ['{', '}'] := by
  cases style with
  | compact => simp [chars, compactChars, compactMembers]
  | pretty => simp [chars, prettyChars]

theorem compactMembers_eq (level : Nat) (first : Bool) (members : List (String × Json)) :
    (if first || members.isEmpty then [] else [',']) ++ compactMembers members =
      (Style.compact.layout level).members compactChars first members := by
  induction members generalizing first with
  | nil => simp [compactMembers, Layout.members, Style.layout]
  | cons member members ih =>
      obtain ⟨key, value⟩ := member
      rw [compactMembers, Layout.members, ← ih false]
      simp [Style.layout]

theorem prettyMembers_eq (level : Nat) (first : Bool) (members : List (String × Json)) :
    (if first || members.isEmpty then [] else [',']) ++ prettyMembers level members =
      (Style.pretty.layout level).members (prettyChars (level + 1)) first members := by
  induction members generalizing first with
  | nil => simp [prettyMembers, Layout.members, Style.layout]
  | cons member members ih =>
      obtain ⟨key, value⟩ := member
      rw [prettyMembers, Layout.members, ← ih false]
      simp [Style.layout]

theorem Style.chars_object (style : Style) (level : Nat) {members : List (String × Json)}
    (h : members ≠ []) :
    style.chars level (.object members) =
      '{' :: (style.layout level).members (style.chars (level + 1)) true members := by
  cases style with
  | compact =>
      have hmembers := compactMembers_eq level true members
      simp only [Bool.true_or, if_true, List.nil_append] at hmembers
      simp [chars, compactChars, hmembers]
  | pretty =>
      have hmembers := prettyMembers_eq level true members
      simp only [Bool.true_or, if_true, List.nil_append] at hmembers
      simp [chars, prettyChars, h, hmembers]

namespace Layout

variable {layout : Layout} {write : α → List Char}

theorem members_map {β : Type} (f : β → α) (first : Bool) (members : List (String × β)) :
    layout.members write first (members.map fun (key, value) => (key, f value)) =
      layout.members (fun value => write (f value)) first members := by
  induction members generalizing first with
  | nil => rfl
  | cons member members ih =>
      obtain ⟨key, value⟩ := member
      simp only [List.map_cons, Layout.members, ih]

theorem members_cons_append (first : Bool) (key : String) (value : α)
    (members : List (String × α)) (rest : List Char) :
    layout.members write first ((key, value) :: members) ++ rest =
      (if first then [] else [',']) ++ (layout.gap ++ '"' ::
        (key.toList.flatMap escape ++ '"' :: (':' :: (layout.space ++
          (write value ++ (layout.members write false members ++ rest)))))) := by
  simp [Layout.members, quoted, List.append_assoc]

theorem endsNumber_members (members : List (String × α)) (rest : List Char) :
    EndsNumber (layout.members write false members ++ rest) := by
  cases members with
  | nil =>
      have hwritten : layout.members write false [] ++ rest = layout.stop ++ '}' :: rest := by
        simp [Layout.members]
      rw [hwritten]
      exact endsNumber_blanks layout.stop_blank (.cons (by decide) rest)
  | cons member members =>
      rw [members_cons_append]
      exact .cons (by decide) _

end Layout

section

variable {input rest : List Char}

theorem nextMember_of_brace (first : Bool) (h : (skipBlanks input).1 = '}' :: rest) :
    ∃ hlt, nextMember input first = .ok (.stop ⟨rest, hlt⟩) := by
  have hlength := (skipBlanks input).2
  rw [h] at hlength
  refine ⟨hlength, ?_⟩
  unfold nextMember
  dsimp only
  split
  · next hnil => simp [hnil] at h
  · next c more hcons =>
    obtain ⟨rfl, rfl⟩ := List.cons.inj (hcons.symm.trans h)
    rfl

theorem nextMember_of_quote (h : (skipBlanks input).1 = '"' :: rest) :
    ∃ hlt, nextMember input true = .ok (.key ⟨rest, hlt⟩) := by
  have hlength := (skipBlanks input).2
  rw [h] at hlength
  refine ⟨hlength, ?_⟩
  unfold nextMember
  dsimp only
  split
  · next hnil => simp [hnil] at h
  · next c more hcons =>
    obtain ⟨rfl, rfl⟩ := List.cons.inj (hcons.symm.trans h)
    rfl

theorem nextMember_of_comma (h : (skipBlanks input).1 = '"' :: rest) :
    ∃ hlt, nextMember (',' :: input) false = .ok (.key ⟨rest, hlt⟩) := by
  have hlength := (skipBlanks input).2
  rw [h] at hlength
  refine ⟨Nat.lt_succ_of_lt hlength, ?_⟩
  unfold nextMember
  dsimp only
  split
  · next hnil => cases hnil
  · next comma others hcomma =>
    obtain ⟨rfl, rfl⟩ := List.cons.inj (hcomma : ',' :: input = comma :: others)
    simp only [Char.reduceEq, Bool.false_eq_true, if_false, if_true]
    split
    · next hnil => simp [hnil] at h
    · next c more hcons =>
      obtain ⟨rfl, rfl⟩ := List.cons.inj (hcons.symm.trans h)
      rfl

end

section

variable {layout : Layout} {write : α → List Char}

theorem nextMember_members_nil (first : Bool) (rest : List Char) :
    ∃ hlt, nextMember (layout.members write first [] ++ rest) first =
      .ok (.stop ⟨rest, hlt⟩) := by
  apply nextMember_of_brace first
  have hwritten : layout.members write first [] ++ rest = layout.stop ++ '}' :: rest := by
    simp [Layout.members]
  rw [hwritten, skipBlanks_append layout.stop_blank (by decide)]

theorem nextMember_gap (layout : Layout) (first : Bool) (rest : List Char) :
    ∃ hlt, nextMember ((if first then [] else [',']) ++ (layout.gap ++ '"' :: rest)) first =
      .ok (.key ⟨rest, hlt⟩) := by
  have hquote : (skipBlanks (layout.gap ++ '"' :: rest)).1 = '"' :: rest := by
    rw [skipBlanks_append layout.gap_blank (by decide)]
  cases first with
  | true => exact nextMember_of_quote hquote
  | false => exact nextMember_of_comma hquote

end

/-!
Dictionaries.
-/

section

variable {reader : Reader α} {input : List Char} {first : Bool} {found : Dict α}

theorem readEntries_of_stop {rest : Less input} (h : nextMember input first = .ok (.stop rest)) :
    readEntries reader input first found = .ok (found, ⟨rest.1, Nat.le_of_lt rest.2⟩) := by
  rw [readEntries]
  simp only [h, bind, Except.bind, pure, Except.pure]

theorem readEntries_of_key {start : Less input} {key : String} {value : α}
    {afterKey : Left start.1} {colon : Left afterKey.1} {next : Left colon.1}
    {entries : Dict α} {last : Left next.1} (h : nextMember input first = .ok (.key start))
    (hkey : readKey start.1 = .ok (key, afterKey)) (hcolon : expectColon afterKey.1 = .ok colon)
    (hvalue : reader colon.1 = .ok (value, next))
    (hrest : readEntries reader next.1 false (found.insert key value) = .ok (entries, last)) :
    ∃ hle, readEntries reader input first found = .ok (entries, ⟨last.1, hle⟩) := by
  refine ⟨length_le_of_member colon (Nat.le_trans last.2 next.2), ?_⟩
  rw [readEntries]
  simp only [h, hkey, hcolon, hvalue, hrest, bind, Except.bind, pure, Except.pure]

end

theorem readEntries_members {reader : Reader α} (layout : Layout) (write : α → List Char)
    (entries : List (String × α))
    (hvalues : ∀ entry ∈ entries, ReadsEnded reader (write entry.2) entry.2)
    (first : Bool) (found : Dict α) (rest : List Char) :
    ∃ hle, readEntries reader (layout.members write first entries ++ rest) first found =
      .ok (entries.foldl (fun d entry => d.insert entry.1 entry.2) found, ⟨rest, hle⟩) := by
  induction entries generalizing first found with
  | nil =>
      obtain ⟨hlt, hstop⟩ := nextMember_members_nil first rest
      exact ⟨Nat.le_of_lt hlt, readEntries_of_stop hstop⟩
  | cons entry entries ih =>
      obtain ⟨key, value⟩ := entry
      -- From the end to the front: each part is read with what comes behind it left over.
      obtain ⟨_, hrest⟩ := ih (fun entry hentry =>
        hvalues entry (List.mem_cons_of_mem _ hentry)) false (found.insert key value)
      obtain ⟨_, hvalue⟩ := hvalues (key, value) List.mem_cons_self layout.space _
        layout.space_blank (Layout.endsNumber_members entries rest)
      obtain ⟨_, hkey⟩ := readKey_quoted key _
      obtain ⟨_, hstart⟩ := nextMember_gap layout first _
      rw [Layout.members_cons_append]
      exact readEntries_of_key hstart hkey (expectColon_cons _) hvalue hrest

theorem reads_dict {reader : Reader α} (write : α → Json) (style : Style) (level : Nat)
    (d : Dict α) (hvalues : ∀ entry ∈ d.entries,
      ReadsEnded reader (style.chars (level + 1) (write entry.2)) entry.2) :
    Reads (readDict reader) (style.chars level (d.toJson write)) d := by
  have hread : ∀ rest, ∃ inner, style.chars level (d.toJson write) = '{' :: inner ∧
      ∃ hle, readEntries reader (inner ++ rest) true ∅ = .ok (d, ⟨rest, hle⟩) := by
    intro rest
    have hmade : d.entries.foldl (fun d entry => d.insert entry.1 entry.2) ∅ = d :=
      d.ofList_entries
    cases hentries : d.entries with
    | nil =>
        rw [hentries] at hmade
        have hbrace : (skipBlanks ('}' :: rest)).1 = '}' :: rest := rfl
        obtain ⟨hlt, hstop⟩ := nextMember_of_brace true hbrace
        refine ⟨['}'], ?_, Nat.le_of_lt hlt, ?_⟩
        · rw [Dict.toJson, hentries]
          exact style.chars_object_nil level
        · rw [← hmade]
          exact readEntries_of_stop hstop
    | cons entry entries =>
        refine ⟨(style.layout level).members
          (fun value => style.chars (level + 1) (write value)) true d.entries, ?_, ?_⟩
        · rw [Dict.toJson, style.chars_object level (by simp [hentries]), Layout.members_map]
        · have hall := readEntries_members (style.layout level)
            (fun value => style.chars (level + 1) (write value)) d.entries hvalues true ∅ rest
          rwa [hmade] at hall
  intro blanks rest hblanks
  obtain ⟨inner, hwritten, hle, hentries⟩ := hread rest
  rw [hwritten]
  change ∃ hle, readDict reader (blanks ++ '{' :: (inner ++ rest)) = .ok (d, ⟨rest, hle⟩)
  refine ⟨by simp at hle ⊢; omega, ?_⟩
  simp only [readDict, toValue_append hblanks (show isBlank '{' = false by decide), hentries,
    bind, Except.bind, pure, Except.pure]

/-!
Records.
-/

section

variable {fields : Fields α β} {input : List Char} {first : Bool}
  {found : Option α × Option β}

theorem readMembers_of_stop {rest : Less input} (h : nextMember input first = .ok (.stop rest)) :
    readMembers fields input first found = .ok (found, ⟨rest.1, Nat.le_of_lt rest.2⟩) := by
  rw [readMembers]
  simp only [h, bind, Except.bind, pure, Except.pure]

variable {start : Less input} {afterKey : Left start.1} {colon : Left afterKey.1}
  {next : Left colon.1} {last : Left next.1} (h : nextMember input first = .ok (.key start))
  (hcolon : expectColon afterKey.1 = .ok colon)

include h hcolon

theorem readMembers_of_first {a : α}
    (hkey : readKey start.1 = .ok (fields.first.1, afterKey))
    (hvalue : fields.first.2 colon.1 = .ok (a, next))
    (hrest : readMembers fields next.1 false (some a, none) = .ok (found, last)) :
    ∃ hle, readMembers fields input first (none, none) = .ok (found, ⟨last.1, hle⟩) := by
  refine ⟨length_le_of_member colon (Nat.le_trans last.2 next.2), ?_⟩
  rw [readMembers]
  simp [h, hkey, hcolon, hvalue, hrest, bind, Except.bind, pure, Except.pure, Except.map]

theorem readMembers_of_second {a : α} {b : β} (hne : fields.second.1 ≠ fields.first.1)
    (hkey : readKey start.1 = .ok (fields.second.1, afterKey))
    (hvalue : fields.second.2 colon.1 = .ok (b, next))
    (hrest : readMembers fields next.1 false (some a, some b) = .ok (found, last)) :
    ∃ hle, readMembers fields input first (some a, none) = .ok (found, ⟨last.1, hle⟩) := by
  refine ⟨length_le_of_member colon (Nat.le_trans last.2 next.2), ?_⟩
  rw [readMembers]
  simp [h, hkey, hcolon, hvalue, hrest, hne, bind, Except.bind, pure, Except.pure, Except.map]

end

theorem readMembers_members {fields : Fields α β} (layout : Layout) {write : Json → List Char}
    {a : α} {b : β} {firstJson secondJson : Json} (hne : fields.second.1 ≠ fields.first.1)
    (hfirst : ReadsEnded fields.first.2 (write firstJson) a)
    (hsecond : ReadsEnded fields.second.2 (write secondJson) b) (rest : List Char) :
    ∃ hle, readMembers fields
        (layout.members write true
          [(fields.first.1, firstJson), (fields.second.1, secondJson)] ++ rest) true (none, none) =
      .ok ((some a, some b), ⟨rest, hle⟩) := by
  have hlast : ∃ hle, readMembers fields
      (layout.members write false [(fields.second.1, secondJson)] ++ rest) false
      (some a, none) = .ok ((some a, some b), ⟨rest, hle⟩) := by
    obtain ⟨_, hstop⟩ := nextMember_members_nil false rest
    obtain ⟨_, hvalue⟩ := hsecond layout.space _ layout.space_blank
      (Layout.endsNumber_members [] rest)
    obtain ⟨_, hkey⟩ := readKey_quoted fields.second.1 _
    obtain ⟨_, hstart⟩ := nextMember_gap layout false _
    rw [Layout.members_cons_append]
    exact readMembers_of_second hstart (expectColon_cons _) hne hkey hvalue
      (readMembers_of_stop hstop)
  obtain ⟨_, hrest⟩ := hlast
  obtain ⟨_, hvalue⟩ := hfirst layout.space _ layout.space_blank (Layout.endsNumber_members _ rest)
  obtain ⟨_, hkey⟩ := readKey_quoted fields.first.1 _
  obtain ⟨_, hstart⟩ := nextMember_gap layout true _
  rw [Layout.members_cons_append]
  exact readMembers_of_first hstart (expectColon_cons _) hkey hvalue hrest

/-- A record that is written as an object with its two fields in order is read back. -/
theorem reads_record (name : String) (fields : Fields α β)
    (hne : fields.second.1 ≠ fields.first.1) {style : Style} {level : Nat} {a : α} {b : β}
    {firstJson secondJson : Json}
    (hfirst : ReadsEnded fields.first.2 (style.chars (level + 1) firstJson) a)
    (hsecond : ReadsEnded fields.second.2 (style.chars (level + 1) secondJson) b) :
    Reads (readRecord name fields)
      (style.chars level
        (.object [(fields.first.1, firstJson), (fields.second.1, secondJson)])) (a, b) := by
  intro blanks rest hblanks
  obtain ⟨hle, hmembers⟩ := readMembers_members (style.layout level) hne hfirst hsecond rest
  rw [style.chars_object level (by simp)]
  change ∃ hle, readRecord name fields (blanks ++ '{' :: ((style.layout level).members _ true
    [(fields.first.1, firstJson), (fields.second.1, secondJson)] ++ rest)) = _
  refine ⟨by simp at hle ⊢; omega, ?_⟩
  simp only [readRecord, toValue_append hblanks (show isBlank '{' = false by decide), hmembers,
    bind, Except.bind, pure, Except.pure]

/-!
Whole texts.
-/

theorem read_of_readsEnded {reader : Reader α} {written : List Char} {value : α}
    (h : ReadsEnded reader written value) : read reader (String.ofList written) = .ok value := by
  have hread : ∃ hle, reader (String.ofList written).toList = .ok (value, ⟨[], hle⟩) := by
    have hsource : (String.ofList written).toList = [] ++ (written ++ []) := by simp
    rw [hsource]
    exact h [] [] (by simp) .nil
  obtain ⟨hle, hvalue⟩ := hread
  rw [read, hvalue]
  rfl

end Colloquy.Json
