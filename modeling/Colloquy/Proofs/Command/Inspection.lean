import Colloquy.Proofs.Dialogue.Protocol
import Colloquy.Proofs.Disk.Path
import Mathlib.Data.List.Forall2

/-!
Checks of the scripts in a directory and below.  Every script in a directory that can be opened is
told of once, in the order of the paths, and what is told of it is what compiling it comes to.
-/

namespace Colloquy

open Json (Printable)

namespace Script

variable {disk : Disk} {top path scriptsDir : String} {node : Node} {names : List String}
  {entries : List (String × Node)}

theorem isPath_iff : isPath path = true ↔
    ".bot.xml".toList <:+ path.toList ∨ ".html".toList <:+ path.toList := by
  simp [isPath, suffixes]

/-- Names that lead from the directory at `top` to a file whose path ends as those of scripts do. -/
structure IsAt (top : String) (node : Node) (names : List String) : Prop where
  file : ∃ content, node.find? names = some (.file content)
  ending : ".bot.xml".toList <:+ (Path.below top names).toList ∨
    ".html".toList <:+ (Path.below top names).toList

/-- Every directory on the way to the script can be opened. -/
structure IsReached (top : String) (node : Node) (names : List String) : Prop
    extends IsAt top node names where
  opened : ∀ count < names.length,
    (Path.below top (names.take count)).utf8ByteSize < Disk.pathLimit

/-- It is the last directory on the way that has the longest path. -/
theorem opens_dropLast_iff (hne : names ≠ []) : opens (Path.below top names.dropLast) = true ↔
    ∀ count < names.length, (Path.below top (names.take count)).utf8ByteSize < Disk.pathLimit := by
  have hlength := List.length_pos_iff.mpr hne
  rw [opens, decide_eq_true_iff, List.dropLast_eq_take]
  constructor
  · intro hlast count hcount
    exact Nat.lt_of_le_of_lt (Path.size_below_take_le top names (by omega)) hlast
  · intro h
    exact h (names.length - 1) (by omega)

/-- The names that lead to the scripts below a directory, in the order of the walk. -/
def places (top : String) (node : Node) : List (List String) :=
  ((node.files.filter fun (names, _) => opens (Path.below top names.dropLast)).map (·.1)).filter
    fun names => isPath (Path.below top names)

theorem findAll_eq (h : disk.find (directory disk scriptsDir) = .ok (.directory entries)) :
    findAll disk scriptsDir =
      let top := directory disk scriptsDir
      let paths := (places top (.directory entries)).map (Path.below top)
      if paths = [] then .error (.empty top) else .ok paths := by
  simp only [findAll, h, Node.isDirectory, places, List.filter_map, List.map_map]
  rfl

theorem mem_places_iff (hkept : (Node.directory entries).WellKept) :
    names ∈ places top (.directory entries) ↔ IsReached top (.directory entries) names := by
  have hne : ∀ {content}, (Node.directory entries).find? names = some (.file content) →
      names ≠ [] := by
    rintro content hfile rfl
    cases hfile
  simp only [places, List.mem_filter, List.mem_map, isPath_iff]
  constructor
  · rintro ⟨⟨⟨_, content⟩, ⟨hmem, hopens⟩, rfl⟩, hending⟩
    have hfile := hkept.mem_files_iff.mp hmem
    exact ⟨⟨⟨content, hfile⟩, hending⟩, (opens_dropLast_iff (hne hfile)).mp hopens⟩
  · rintro ⟨⟨⟨content, hfile⟩, hending⟩, hopened⟩
    have hopens := (opens_dropLast_iff (hne hfile)).mpr hopened
    exact ⟨⟨(names, content), ⟨hkept.mem_files_iff.mpr hfile, hopens⟩, rfl⟩, hending⟩

theorem pairwise_places (hkept : node.WellKept) : (places top node).Pairwise (· < ·) := by
  refine List.Pairwise.filter _ ?_
  rw [List.pairwise_map]
  exact hkept.pairwise_files.filter _

theorem isAbsolute_directory (disk : Disk) (scriptsDir : String) :
    Path.IsAbsolute (directory disk scriptsDir) := by
  rw [directory]
  split
  · next habsolute => exact habsolute
  · refine Path.isAbsolute_entry (Path.isAbsolute_iff.mpr ?_) scriptsDir
    simp [Disk.hereText]

end Script

namespace Command

variable {setting : Setting} {disk : Disk} {path : String}

/-- The line about a script agrees with the outcome of compiling it. -/
structure AgreesWithCompile (setting : Setting) (path line : String) : Prop where
  sound : line = "OK:" ++ path ↔ (run setting (.compile path)).code = 0
  faulty : line ≠ "OK:" ++ path → ∃ code message,
    line = "ERROR:" ++ path ++ "|" ++ code ++ "|" ++ message ∧
      run setting (.compile path) =
        ⟨1, Chat.output ["RESULT:ERROR", "ERROR_CODE:" ++ code, "ERROR_MSG_JSON:" ++ message],
          setting.disk⟩

theorem error_ne_ok (path rest : String) : "ERROR:" ++ rest ≠ "OK:" ++ path := by
  intro h
  have hhead := congrArg (·.toList.head?) h
  simp at hhead

theorem verdictLine_eq_ok_iff :
    verdictLine disk path = "OK:" ++ path ↔ (verdict disk path).toBool = true := by
  rw [verdictLine]
  cases verdict disk path with
  | ok script => exact ⟨fun _ => rfl, fun _ => rfl⟩
  | error report =>
      simp only [String.append_assoc, error_ne_ok, false_iff]
      exact Bool.false_ne_true

theorem agreesWithCompile_verdictLine (setting : Setting) (path : String) :
    AgreesWithCompile setting path (verdictLine setting.disk path) := by
  cases hload : Script.load setting.disk path with
  | ok script =>
      have hverdict : verdict setting.disk path = .ok script := by
        rw [verdict, hload]
        rfl
      have hline : verdictLine setting.disk path = "OK:" ++ path := by
        rw [verdictLine, hverdict]
      refine ⟨iff_of_true hline ?_, fun hne => absurd hline hne⟩
      rw [run, runCompile, hload]
  | error fault =>
      have hverdict : verdict setting.disk path = .error fault.report := by
        rw [verdict, hload]
        rfl
      have hrun : run setting (.compile path) = failed setting.disk "" (.script fault) := by
        rw [run, runCompile, hload]
      refine ⟨?_, fun _ => ⟨fault.report.code, quoted fault.report.message, ?_, ?_⟩⟩
      · rw [verdictLine_eq_ok_iff, hverdict, hrun]
        exact iff_of_false Bool.false_ne_true Nat.one_ne_zero
      · rw [verdictLine, hverdict]
      · rw [hrun, failed, String.empty_append]
        rfl

/-!
Lines that stay lines: only a path can break one.
-/

theorem newline_not_mem_of_printable {cs : List Char} (h : Printable cs) : '\n' ∉ cs :=
  fun hbreak => absurd (h '\n' hbreak) (by decide)

theorem printable_quoted (s : String) : Printable (quoted s).toList :=
  printable_compact (.text s : Json.Fits 1 _)

theorem newline_not_mem_code : ∀ fault : LoadFault, '\n' ∉ fault.report.code.toList
  | .unreadable _ _ => (by decide : '\n' ∉ "SCRIPT_READ_ERROR".toList)
  | .invalid (.markup _) => (by decide : '\n' ∉ "XML_PARSE_ERROR".toList)
  | .invalid (.root _ _) => (by decide : '\n' ∉ "XML_ROOT_INVALID".toList)
  | .invalid (.boolean _ _ _) => (by decide : '\n' ∉ "XML_ATTR_BOOL_INVALID".toList)
  | .invalid .entryFlowMissing => (by decide : '\n' ∉ "ENTRY_FLOW_MISSING".toList)
  | .invalid (.pattern _ _ _) => (by decide : '\n' ∉ "TEMPLATE_PATTERN_INVALID".toList)

theorem newline_not_mem_verdictLine (h : '\n' ∉ path.toList) :
    '\n' ∉ (verdictLine disk path).toList := by
  rw [verdictLine]
  cases hload : Script.load disk path with
  | ok script => simp [verdict, hload, Except.mapError, h]
  | error fault =>
      have hmessage := newline_not_mem_of_printable (printable_quoted fault.report.message)
      simp [verdict, hload, Except.mapError, h, newline_not_mem_code, hmessage]

def countLine (count : Nat) : String := "CHECKED:" ++ toString count

theorem newline_not_mem_countLine (count : Nat) : '\n' ∉ (countLine count).toList := by
  have hdigits := newline_not_mem_of_printable (Json.printable_toDigits count)
  simp [countLine, hdigits]

/-!
Reports.
-/

/-- What a check says and how it ends, if it is to tell of the scripts that these names lead to. -/
structure Reports (setting : Setting) (top : String) (isScript : List String → Prop)
    (outcome : Outcome) (files : List (List String)) (lines : List String) : Prop where
  listed : ∀ names, names ∈ files ↔ isScript names
  once : files.Nodup
  ordered : (files.map (Path.below top)).Pairwise Path.Before
  agrees : List.Forall₂ (AgreesWithCompile setting) (files.map (Path.below top)) lines
  output : outcome.output = Chat.output (lines ++ [countLine lines.length])
  /-- If no path breaks a line, these are the lines of the output. -/
  legible : (∀ names ∈ files, '\n' ∉ (Path.below top names).toList) →
    Text.pieces '\n' outcome.output.toList =
      (lines ++ [countLine lines.length]).map String.toList ++ [[]]
  code : outcome.code =
    if lines = (files.map (Path.below top)).map ("OK:" ++ ·) then 0 else 1
  disk : outcome.disk = setting.disk

theorem all_verdict_iff (disk : Disk) (paths : List String) :
    (paths.all fun path => (verdict disk path).toBool) = true ↔
      paths.map (verdictLine disk) = paths.map ("OK:" ++ ·) := by
  rw [List.all_eq_true, List.map_inj_left]
  exact forall₂_congr fun path _ => verdictLine_eq_ok_iff.symm

theorem runCheck_eq {scriptsDir : String} {paths : List String}
    (h : Script.findAll setting.disk scriptsDir = .ok paths) :
    let lines := paths.map (verdictLine setting.disk)
    run setting (.check scriptsDir) =
      ⟨if lines = paths.map ("OK:" ++ ·) then 0 else 1,
        Chat.output (lines ++ [countLine lines.length]), setting.disk⟩ := by
  simp only [run, runCheck, h, List.length_map]
  rw [if_congr (all_verdict_iff setting.disk paths) rfl rfl]
  rfl

/-- Every script that is reached is told of in a line, and no other file, in the order of the paths;
what is said there is what compiling the script comes to, and the exit code tells if all is well. -/
theorem check_reports (setting : Setting) (scriptsDir : String) {entries : List (String × Node)}
    (hkept : setting.disk.root.WellKept)
    (hfind : setting.disk.find (Script.directory setting.disk scriptsDir) =
      .ok (.directory entries))
    (hscript : ∃ names,
      Script.IsReached (Script.directory setting.disk scriptsDir) (.directory entries) names) :
    let top := Script.directory setting.disk scriptsDir
    ∃ files lines, Reports setting top (Script.IsReached top (.directory entries))
      (run setting (.check scriptsDir)) files lines := by
  intro top
  obtain ⟨_, place, _, _, hplace⟩ := Disk.find_eq_ok_iff.mp hfind
  have hnode : (Node.directory entries).WellKept := hkept.find? hplace
  have habsolute : Path.IsAbsolute top := Script.isAbsolute_directory setting.disk scriptsDir
  let files := Script.places top (.directory entries)
  have hlisted : ∀ names, names ∈ files ↔ Script.IsReached top (.directory entries) names :=
    fun names => Script.mem_places_iff hnode
  have hnames : ∀ names ∈ files, ∀ name ∈ names, IsEntryName name := by
    intro names hmem
    obtain ⟨content, hfile⟩ := ((hlisted names).mp hmem).file
    exact hnode.isEntryName (hnode.mem_files_iff.mpr hfile)
  have hne : files.map (Path.below top) ≠ [] := by
    obtain ⟨names, hreached⟩ := hscript
    exact List.ne_nil_of_mem (List.mem_map_of_mem ((hlisted names).mpr hreached))
  have hrun := runCheck_eq ((Script.findAll_eq hfind).trans (if_neg hne))
  have hsorted : files.Pairwise (· < ·) := Script.pairwise_places hnode
  refine ⟨files, (files.map (Path.below top)).map (verdictLine setting.disk), ?_⟩
  rw [hrun]
  constructor
  case listed => exact hlisted
  case once =>
    refine hsorted.imp fun {names later} hlt => ?_
    rintro rfl
    exact List.lt_irrefl names hlt
  case ordered =>
    rw [List.pairwise_map]
    exact hsorted.imp_of_mem fun hmem hlater hlt =>
      (Path.before_below_iff habsolute (hnames _ hmem) (hnames _ hlater)).mpr hlt
  case agrees =>
    rw [List.forall₂_map_right_iff, List.forall₂_same]
    exact fun path _ => agreesWithCompile_verdictLine setting path
  case output => rfl
  case legible =>
    intro hpaths
    refine pieces_output fun line hline => ?_
    rcases List.mem_append.mp hline with hverdict | hcount
    · obtain ⟨path, hpath, rfl⟩ := List.mem_map.mp hverdict
      obtain ⟨names, hmem, rfl⟩ := List.mem_map.mp hpath
      exact newline_not_mem_verdictLine (hpaths names hmem)
    · rw [List.mem_singleton.mp hcount]
      exact newline_not_mem_countLine _
  case code => rfl
  case disk => rfl

def offline (files : List (List String × String)) : Setting where
  disk := ⟨.ofFiles files, ["w"]⟩
  web _ := none
  clock := 0
  input := []

def soundSource : String := "<html><body><nav id=\"main\"/></body></html>"

/-- One directory is called as the name of a script begins, another one as a script might be. -/
def chestSetting : Setting := offline
  [(["w", "s", "z.html", "y.bot.xml"], soundSource), (["w", "s", "a.html"], soundSource),
    (["w", "s", "a", "b.html"], "<html/>"), (["w", "s", "notes.txt"], "")]

def chest : List (String × Node) :=
  [("a", .directory [("b.html", .file "<html/>".toUTF8)]), ("a.html", .file soundSource.toUTF8),
    ("notes.txt", .file "".toUTF8),
    ("z.html", .directory [("y.bot.xml", .file soundSource.toUTF8)])]

theorem check_reports_chest :
    chestSetting.disk.root.WellKept ∧
      chestSetting.disk.find "/w/s" = .ok (.directory chest) ∧
      Script.IsReached "/w/s" (.directory chest) ["a", "b.html"] ∧
      (∃ files lines, Reports chestSetting "/w/s" (Script.IsReached "/w/s" (.directory chest))
        (run chestSetting (.check "s")) files lines) ∧
      (run chestSetting (.check "s")).code = 1 ∧
      (run chestSetting (.check "s")).output =
        "ERROR:/w/s/a/b.html|ENTRY_FLOW_MISSING|" ++
          "\"Cannot find the entry flow (<nav id=\\\"main\\\"> ... </nav>).\"\n" ++
          "OK:/w/s/a.html\nOK:/w/s/z.html/y.bot.xml\nCHECKED:3\n" := by
  have htop : Script.directory chestSetting.disk "s" = "/w/s" := by decide +kernel
  have hkept : chestSetting.disk.root.WellKept := Node.wellKept_ofFiles (by decide +kernel)
  have hfind : chestSetting.disk.find "/w/s" = .ok (.directory chest) := rfl
  have hreached : Script.IsReached "/w/s" (.directory chest) ["a", "b.html"] :=
    ⟨⟨⟨_, rfl⟩, by decide +kernel⟩, by decide +kernel⟩
  have hreports := check_reports chestSetting "s" hkept (htop.symm ▸ hfind)
    ⟨_, htop.symm ▸ hreached⟩
  rw [htop] at hreports
  exact ⟨hkept, hfind, hreached, hreports, by decide +kernel, by decide +kernel⟩

/-!
The count tells how many lines there are.
-/

theorem getLast?_pieces_output (lines : List String) (count : Nat) :
    (Text.pieces ':' (Chat.output (lines ++ [countLine count])).toList).getLast? =
      some (Nat.toDigits 10 count ++ ['\n']) := by
  have hdigits : ':' ∉ Nat.toDigits 10 count ++ ['\n'] := by
    intro hmem
    rcases List.mem_append.mp hmem with hdigit | hend
    · exact absurd (Nat.isDigit_of_mem_toDigits (by decide) (by decide) hdigit) (by decide)
    · exact absurd hend (by decide)
  have hchars : (Chat.output (lines ++ [countLine count])).toList =
      (lines.flatMap (fun line => line.toList ++ ['\n']) ++ "CHECKED".toList) ++
        ':' :: (Nat.toDigits 10 count ++ ['\n']) := by
    simp [toList_output, countLine]
  rw [hchars, Text.pieces_append_sep, Text.pieces_of_not_mem hdigits, List.getLast?_concat]

theorem count_eq_of_output_eq {lines others : List String} {count other : Nat}
    (h : Chat.output (lines ++ [countLine count]) = Chat.output (others ++ [countLine other])) :
    count = other := by
  have hlast := getLast?_pieces_output lines count
  rw [h, getLast?_pieces_output, Option.some.injEq, List.append_cancel_right_eq] at hlast
  have hvalue := congrArg (fun digits => Nat.ofDigitChars 10 digits 0) hlast
  simpa using hvalue.symm

/-!
A script is passed over if the path of its directory is too long, as it is after many slashes.
-/

def atticSetting : Setting := offline
  [(["w", "a.html"], soundSource), (["w", "elsewhere", "x.html"], soundSource)]

def attic : List (String × Node) :=
  [("a.html", .file soundSource.toUTF8),
    ("elsewhere", .directory [("x.html", .file soundSource.toUTF8)])]

def atticDirectory (count : Nat) : String := "." ++ Path.slashes count

def atticTop (count : Nat) : String := "/w/." ++ Path.slashes count

section

variable {count : Nat}

theorem size_atticTop (count : Nat) : (atticTop count).utf8ByteSize = 4 + count := by
  rw [atticTop, String.utf8ByteSize_append, Path.size_slashes]
  rfl

theorem directory_attic (count : Nat) :
    Script.directory atticSetting.disk (atticDirectory count) = atticTop count := by
  have hhere : atticSetting.disk.hereText = "/w" := by decide +kernel
  have hrelative : ¬ (Path.ofText (atticDirectory count)).absolute = true := by
    simp [Path.ofText, atticDirectory]
  rw [Script.directory, if_neg hrelative, hhere, Path.entry, if_neg (by decide), atticDirectory,
    ← String.append_assoc]
  rfl

theorem find_attic (hopen : 4 + count < Disk.pathLimit) :
    atticSetting.disk.find (Script.directory atticSetting.disk (atticDirectory count)) =
      .ok (.directory attic) := by
  have hplain : atticSetting.disk.find "/w/." = .ok (.directory attic) := rfl
  rw [directory_attic]
  exact Disk.find_append_slashes hplain hopen

theorem isPath_entry {name : String} (h : ".html".toList <:+ name.toList) (path : String) :
    Script.isPath (Path.entry path name) = true :=
  Script.isPath_iff.mpr (.inr (h.trans (Path.suffix_entry path name)))

theorem isAt_attic (top : String) : Script.IsAt top (.directory attic) ["a.html"] ∧
    Script.IsAt top (.directory attic) ["elsewhere", "x.html"] :=
  ⟨⟨⟨_, rfl⟩, Script.isPath_iff.mp (isPath_entry (by decide) _)⟩,
    ⟨⟨_, rfl⟩, Script.isPath_iff.mp (isPath_entry (by decide) _)⟩⟩

theorem places_attic (hopen : 4 + count < Disk.pathLimit) (hlong : Disk.pathLimit ≤ 13 + count) :
    Script.places (atticTop count) (.directory attic) = [["a.html"]] := by
  have hfiles : (Node.directory attic).files =
      [(["a.html"], soundSource.toUTF8), (["elsewhere", "x.html"], soundSource.toUTF8)] := rfl
  have hopens : Script.opens (Path.below (atticTop count) []) = true := by
    rw [Script.opens, Path.below, List.foldl_nil, size_atticTop]
    exact decide_eq_true hopen
  have hcloses : Script.opens (Path.below (atticTop count) ["elsewhere"]) = false := by
    have hsize := Path.size_add_size_le_entry (atticTop count) "elsewhere"
    have hname : "elsewhere".utf8ByteSize = 9 := rfl
    rw [size_atticTop, hname] at hsize
    exact decide_eq_false (Nat.not_lt.mpr (Nat.le_trans (by omega) hsize))
  have hscript : Script.isPath (Path.below (atticTop count) ["a.html"]) = true :=
    isPath_entry (by decide) _
  simp [Script.places, hfiles, hopens, hcloses, hscript]

theorem not_reports_attic (hopen : 4 + count < Disk.pathLimit)
    (hlong : Disk.pathLimit ≤ 13 + count) {files : List (List String)} {lines : List String} :
    let top := Script.directory atticSetting.disk (atticDirectory count)
    ¬ Reports atticSetting top (Script.IsAt top (.directory attic))
      (run atticSetting (.check (atticDirectory count))) files lines := by
  intro top hreports
  have hplaces : Script.places top (.directory attic) = [["a.html"]] := by
    rw [← places_attic hopen hlong, ← directory_attic]
  have hne : (Script.places top (.directory attic)).map (Path.below top) ≠ [] := by simp [hplaces]
  have houtput := hreports.output
  rw [runCheck_eq ((Script.findAll_eq (find_attic hopen)).trans (if_neg hne))] at houtput
  have hcount := count_eq_of_output_eq houtput
  -- One file is counted, but two of them are scripts.
  rw [← hreports.agrees.length_eq, List.length_map, List.length_map, List.length_map, hplaces]
    at hcount
  obtain ⟨names, rfl⟩ := List.length_eq_one_iff.mp hcount.symm
  have hfirst := (hreports.listed _).mpr (isAt_attic top).1
  have hsecond := (hreports.listed _).mpr (isAt_attic top).2
  rw [← List.mem_singleton.mp hsecond] at hfirst
  exact absurd (List.mem_singleton.mp hfirst) (by decide)

end

theorem check_passes_over_attic :
    let top := Script.directory atticSetting.disk (atticDirectory 4085)
    atticSetting.disk.root.WellKept ∧ atticSetting.disk.find top = .ok (.directory attic) ∧
      Script.IsAt top (.directory attic) ["a.html"] ∧
      Script.IsAt top (.directory attic) ["elsewhere", "x.html"] ∧
      ¬ ∃ files lines, Reports atticSetting top (Script.IsAt top (.directory attic))
        (run atticSetting (.check (atticDirectory 4085))) files lines :=
  ⟨Node.wellKept_ofFiles (by decide +kernel), find_attic (by decide), (isAt_attic _).1,
    (isAt_attic _).2, fun ⟨_, _, hreports⟩ =>
      not_reports_attic (by decide) (by decide) hreports⟩

end Command

end Colloquy
