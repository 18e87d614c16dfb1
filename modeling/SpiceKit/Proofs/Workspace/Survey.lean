import SpiceKit.Proofs.Disk.Below
import SpiceKit.Proofs.Workspace.Discovery

/-!
# Surveys keep files apart

A survey of a folder reads the files that were discovered, one after the other, and what comes out
for a file depends on its path and its bytes alone (`examine_of_mem`). So every file is reported on
or fails, in the order of discovery (`Divided`), by its own bytes (`Judged`), whatever the others
hold; and **the survey of the file alone says the same** (`survey_alone`).

The one difference is a file whose path is too long to be looked up. A survey of its folder counts
it among the failures; a survey of the file alone ends with a fault.
-/

set_option autoImplicit false

namespace SpiceKit
namespace Workspace

variable {ρ : Type} {dialect : Ignore.Dialect ρ} {disk : Disk} {path base : Path} {root : Node}
  {found : List Found} {file other : Found} {bytes : List UInt8} {report : Report} {failure : Failure}

/-! ## One file -/

/-- What comes out for a file of some path, by what reading it gives. `examine_eq` says that
`examine` is this. -/
def outcome (path : List Char) : Except Unreadable (List Char) → Except Failure Report
  | .error reason => .error ⟨path, reason⟩
  | .ok text => .ok ⟨path, Source.ofText text, (Source.ofText text).analyze⟩

theorem examine_eq (disk : Disk) (base : Path) (file : Found) :
    examine disk base file = outcome file.path (disk.readText (base.below file.names)) := by
  unfold examine
  cases disk.readText (base.below file.names) <;> rfl

theorem examine_path_ok (h : examine disk base file = .ok report) : report.path = file.path := by
  rw [examine_eq] at h
  cases hread : disk.readText (base.below file.names) with
  | error reason => rw [hread] at h; cases h
  | ok text => rw [hread] at h; cases h; rfl

theorem examine_path_error (h : examine disk base file = .error failure) :
    failure.path = file.path := by
  rw [examine_eq] at h
  cases hread : disk.readText (base.below file.names) with
  | error reason => rw [hread] at h; cases h; rfl
  | ok text => rw [hread] at h; cases h

def report? (disk : Disk) (base : Path) (file : Found) : Option Report :=
  (examine disk base file).toOption

def failure? (disk : Disk) (base : Path) (file : Found) : Option Failure :=
  match examine disk base file with
  | .ok _ => none
  | .error failure => some failure

theorem report?_eq_some_iff :
    report? disk base file = some report ↔ examine disk base file = .ok report := by
  unfold report?
  cases examine disk base file <;> simp [Except.toOption]

theorem failure?_eq_some_iff :
    failure? disk base file = some failure ↔ examine disk base file = .error failure := by
  unfold failure?
  cases examine disk base file <;> simp

/-! ## All files -/

theorem examineAll_eq (disk : Disk) (base : Path) (found : List Found) :
    examineAll disk base found =
      (found.filterMap (report? disk base), found.filterMap (failure? disk base)) := by
  induction found with
  | nil => rfl
  | cons file found ih =>
    rw [examineAll, ih, List.filterMap_cons, List.filterMap_cons]
    unfold report? failure?
    cases examine disk base file <;> rfl

/-- What is said of a file, if anything is, carries its path. Reports and failures are both said in
this way, so that each fact about them is proved once for any `said?`. -/
def Named {α : Type} (said? : Found → Option α) (pathOf : α → List Char) : Prop :=
  ∀ file said, said? file = some said → pathOf said = file.path

theorem named_report? (disk : Disk) (base : Path) : Named (report? disk base) Report.path :=
  fun _ _ h => examine_path_ok (report?_eq_some_iff.mp h)

theorem named_failure? (disk : Disk) (base : Path) : Named (failure? disk base) Failure.path :=
  fun _ _ h => examine_path_error (failure?_eq_some_iff.mp h)

/-- The paths of what is said are those of the files of which something is said. What is said is
`Named` after the file it is said of. -/
theorem map_path_filterMap {α : Type} {said? : Found → Option α} {pathOf : α → List Char}
    (h : Named said? pathOf) (found : List Found) :
    (found.filterMap said?).map pathOf =
      (found.filter fun file => (said? file).isSome).map Found.path := by
  induction found with
  | nil => rfl
  | cons file found ih =>
    rw [List.filterMap_cons, List.filter_cons]
    cases hsaid : said? file with
    | none => exact ih
    | some said => simp only [List.map_cons, Option.isSome_some, if_true, h file said hsaid, ih]

theorem filter_filterMap_congr {α : Type} {said? said?' : Found → Option α} {pathOf : α → List Char}
    (h : Named said? pathOf) (h' : Named said?' pathOf) {path : List Char}
    (hsame : ∀ other ∈ found, other.path ≠ path → said?' other = said? other) :
    ((found.filterMap said?').filter fun said => pathOf said ≠ path) =
      (found.filterMap said?).filter fun said => pathOf said ≠ path := by
  have hdropped : ∀ {said? : Found → Option α} {other : Found}, Named said? pathOf →
      other.path = path → (said? other).filter (fun said => pathOf said ≠ path) = none := by
    intro said? other hnamed hpath
    rw [Option.filter_eq_none_iff]
    intro said hsaid
    simp [hnamed other said hsaid, hpath]
  rw [List.filter_filterMap, List.filter_filterMap]
  refine List.filterMap_congr fun other hmem => ?_
  by_cases hpath : other.path = path
  · rw [hdropped h hpath, hdropped h' hpath]
  · rw [hsame other hmem hpath]

theorem isSome_failure? (disk : Disk) (base : Path) (file : Found) :
    (failure? disk base file).isSome = !(report? disk base file).isSome := by
  unfold failure? report?
  cases examine disk base file <;> rfl

/-- **Each file that was found is reported on or fails**, in the order in which they were found:
reports and failures each stand in that order, no path is among both, and together they are the
paths of `found`. `survey_keeps_apart` says so of every survey of a folder, by `divided_of_sorted`. -/
structure Divided (found : List Found) (reports : List Report) (failures : List Failure) : Prop where
  reports_sublist : (reports.map Report.path).Sublist (found.map Found.path)
  failures_sublist : (failures.map Failure.path).Sublist (found.map Found.path)
  disjoint : List.Disjoint (reports.map Report.path) (failures.map Failure.path)
  all : (reports.map Report.path ++ failures.map Failure.path).Perm (found.map Found.path)

theorem divided_of_sorted (disk : Disk) (base : Path)
    (hsorted : found.Pairwise fun a b => a.path < b.path) :
    Divided found (found.filterMap (report? disk base)) (found.filterMap (failure? disk base)) := by
  have hreports := map_path_filterMap (named_report? disk base) found
  have hfailures := map_path_filterMap (named_failure? disk base) found
  have hall : ((found.filterMap (report? disk base)).map Report.path ++
      (found.filterMap (failure? disk base)).map Failure.path).Perm (found.map Found.path) := by
    simp only [isSome_failure?] at hfailures
    rw [hreports, hfailures, ← List.map_append]
    exact (List.filter_append_perm _ _).map _
  have hnodup : (found.map Found.path).Nodup :=
    List.pairwise_map.mpr (hsorted.imp fun hlt => hlt.ne)
  refine ⟨?_, ?_, List.disjoint_of_nodup_append (hall.nodup_iff.mpr hnodup), hall⟩
  · rw [hreports]
    exact List.filter_sublist.map _
  · rw [hfailures]
    exact List.filter_sublist.map _

/-! ## What is said of a file -/

/-- The report on a file of some text, whatever its line ends. -/
def Report.ofText (path raw : List Char) : Report :=
  let source := Source.ofText (Text.unifyNewlines raw)
  ⟨path, source, source.analyze⟩

/-- What is said of a file with some bytes: it fails if its path is too long (`Disk.tooFar`) or its
bytes are those of no text, and else there is a report on the text, which is `Report.ofText`. -/
structure Judged (path : Path) (file : Found) (bytes : List UInt8) (reports : List Report)
    (failures : List Failure) : Prop where
  fails_iff : file.path ∈ failures.map Failure.path ↔
    Disk.tooFar path file.names = true ∨ ∀ raw, Utf8.encode raw ≠ bytes
  reported : ∀ raw, Utf8.encode raw = bytes → Disk.tooFar path file.names = false →
    Report.ofText file.path raw ∈ reports

/-- **What comes out for a file that was found** depends on its path and its bytes alone.
`readText_below` brings the path back to the bytes. -/
theorem examine_of_mem (hroot : disk.find path = .ok (some root)) (hproper : root.Proper)
    (hbytes : root.get? file.names = some (.file bytes)) :
    examine disk path file = outcome file.path
      (if Disk.tooFar path file.names then
        .error (.path (.system (Disk.faultAt (path.below file.names) .tooLong)))
      else (Disk.textOfBytes bytes).mapError .encoding) := by
  rw [examine_eq, Disk.readText_below hroot (hproper.isName_of_get? hbytes) hbytes]

theorem examine_of_encode (hroot : disk.find path = .ok (some root)) (hproper : root.Proper)
    {raw : List Char} (hbytes : root.get? file.names = some (.file (Utf8.encode raw)))
    (hnear : Disk.tooFar path file.names = false) :
    examine disk path file = .ok (Report.ofText file.path raw) := by
  rw [examine_of_mem hroot hproper hbytes, hnear, Disk.textOfBytes, Utf8.decode_encode]
  rfl

theorem examine_fails_iff (hroot : disk.find path = .ok (some root)) (hproper : root.Proper)
    (hbytes : root.get? file.names = some (.file bytes)) :
    (∃ failure, examine disk path file = .error failure) ↔
      Disk.tooFar path file.names = true ∨ ∀ raw, Utf8.encode raw ≠ bytes := by
  rw [examine_of_mem hroot hproper hbytes]
  cases Disk.tooFar path file.names with
  | true => simp [outcome]
  | false =>
    simp only [Bool.false_eq_true, if_false, false_or, Disk.textOfBytes]
    cases hdecode : Utf8.decode bytes with
    | ok raw =>
      have hraw := Utf8.decode_eq_ok_iff.mp hdecode
      simpa [Except.map, Except.mapError, outcome] using ⟨raw, hraw⟩
    | error fault =>
      simp only [Except.map, Except.mapError, outcome, Except.error.injEq, exists_eq', true_iff]
      intro raw hraw
      rw [Utf8.decode_eq_ok_iff.mpr hraw] at hdecode
      cases hdecode

/-- What is said under the path of a file that was found is said of that file, since no other file
that was found has its path (`path_injOn`). -/
theorem said_of_path {α : Type} {said? : Found → Option α} {pathOf : α → List Char}
    (hnamed : Named said? pathOf) (hproper : root.Proper)
    (hfound : discover dialect path root = .ok found) (hmem : file ∈ found) {said : α}
    (hsaid : said ∈ found.filterMap said?) (hpath : pathOf said = file.path) :
    said? file = some said := by
  obtain ⟨other, hother, heq⟩ := List.mem_filterMap.mp hsaid
  have hsame : other.path = file.path := (hnamed other said heq).symm.trans hpath
  rw [← path_injOn hproper hfound hother hmem hsame]
  exact heq

theorem judged_of_mem (hroot : disk.find path = .ok (some root)) (hproper : root.Proper)
    (hfound : discover dialect path root = .ok found) (hmem : file ∈ found)
    (hbytes : root.get? file.names = some (.file bytes)) :
    Judged path file bytes (found.filterMap (report? disk path))
      (found.filterMap (failure? disk path)) := by
  constructor
  · rw [← examine_fails_iff hroot hproper hbytes, List.mem_map]
    constructor
    · rintro ⟨failure, hfailure, hpath⟩
      have hsaid := said_of_path (named_failure? disk path) hproper hfound hmem hfailure hpath
      exact ⟨failure, failure?_eq_some_iff.mp hsaid⟩
    · rintro ⟨failure, herror⟩
      refine ⟨failure, List.mem_filterMap.mpr ⟨file, hmem, ?_⟩, examine_path_error herror⟩
      exact failure?_eq_some_iff.mpr herror
  · rintro raw rfl hnear
    have hok := examine_of_encode hroot hproper hbytes hnear
    exact List.mem_filterMap.mpr ⟨file, hmem, report?_eq_some_iff.mpr hok⟩

/-! ## Other bytes -/

theorem getLast?_ne_patternFile (hproper : root.Proper)
    (hfound : discover dialect path root = .ok found) (hmem : file ∈ found) :
    file.names.getLast? ≠ some patternFile := by
  obtain ⟨name, hlast, hsource⟩ := ((mem_discover hproper hfound).mp hmem).source
  rw [hlast]
  rintro heq
  rw [Option.some.inj heq] at hsource
  exact absurd hsource (by decide)

/-- The bytes of the files that were found do not matter to what is found. No pattern file is among
them (`getLast?_ne_patternFile`). -/
theorem discover_put_file (hproper : root.Proper) (hfound : discover dialect path root = .ok found)
    (hmem : file ∈ found) (bytes : List UInt8) :
    discover dialect path (root.put file.names (.file bytes)) = .ok found := by
  obtain ⟨old, hold⟩ := ((mem_discover hproper hfound).mp hmem).file
  have hplain := getLast?_ne_patternFile hproper hfound hmem
  rw [← hfound]
  unfold discover
  rw [walk_put_file hproper hold hplain]

/-- **Other bytes in one file change nothing about another**: the bytes of the other are where they
were, and so they are read as before. Paths of different files lead to different places
(`get?_put_file_of_ne`). -/
theorem examine_withBytes (hroot : disk.find path = .ok (some root)) (hproper : root.Proper)
    (hfound : discover dialect path root = .ok found) (hmem : file ∈ found) (hother : other ∈ found)
    (hne : other ≠ file) (bytes : List UInt8) :
    examine (disk.withBytes path file.names bytes) path other = examine disk path other := by
  obtain ⟨old, hold⟩ := ((mem_discover hproper hfound).mp hmem).file
  obtain ⟨same, hsame⟩ := ((mem_discover hproper hfound).mp hother).file
  have hroot' := Disk.find_withBytes hroot hold bytes
  have hnames : other.names ≠ file.names := fun h => hne (congrArg Found.mk h)
  have hsame' := Node.get?_put_file_of_ne hold hnames hsame bytes
  have hisName := hproper.isName_of_get? hsame
  rw [examine_eq, examine_eq, Disk.readText_below hroot' hisName hsame',
    Disk.readText_below hroot hisName hsame]

/-! ## A file alone -/

def renamed (name : List Char) : Except Failure Report → List Report × List Failure
  | .ok report => ([{ report with path := name }], [])
  | .error failure => ([], [{ failure with path := name }])

theorem examineAll_singleton (hne : file.names ≠ []) :
    examineAll disk (path.below file.names).parent [⟨[(path.below file.names).name]⟩] =
      renamed (path.below file.names).name (examine disk path file) := by
  have hnames : (path.below file.names).names ≠ [] := List.append_ne_nil_of_right_ne_nil _ hne
  have hpath : Found.path ⟨[(path.below file.names).name]⟩ = (path.below file.names).name :=
    Path.joinNames_singleton _
  rw [examineAll, examineAll, examine_eq, examine_eq, hpath, Path.parent_below_name hnames]
  cases disk.readText (path.below file.names) <;> rfl

/-- **The survey of a file alone** says what a survey of its folder does, under its name. If its
path is too long, the survey ends with a fault. What is said of the file keeps all but its name
(`renamed`). -/
theorem survey_alone (dialect : Ignore.Dialect ρ) (hroot : disk.find path = .ok (some root))
    (hproper : root.Proper) (hne : file.names ≠ [])
    (hbytes : root.get? file.names = some (.file bytes)) :
    surveyBy dialect disk (path.below file.names) =
      if Disk.tooFar path file.names then
        .error (.unreadable (.path (.system (Disk.faultAt (path.below file.names) .tooLong))))
      else .ok (renamed (path.below file.names).name (examine disk path file)) := by
  unfold surveyBy
  rw [Disk.find_below hroot (hproper.isName_of_get? hbytes) hbytes]
  cases Disk.tooFar path file.names with
  | true => rfl
  | false => exact congrArg Except.ok (examineAll_singleton hne)

/-! ## Surveys -/

theorem survey_folder (hroot : disk.find path = .ok (some root)) (hfolder : root.isFolder = true)
    (hfound : discover dialect path root = .ok found) :
    surveyBy dialect disk path =
      .ok (found.filterMap (report? disk path), found.filterMap (failure? disk path)) := by
  cases root with
  | file bytes => cases hfolder
  | folder entries =>
    unfold surveyBy
    rw [hroot]
    simp only [sourcesBy_eq hroot, hfound, Except.map, examineAll_eq]

/-- Other bytes in a file that was found change nothing about the others: the same files are found,
and those whose path is another one are examined with the same outcome. `Named` and
`filter_filterMap_congr` carry this from the files to the two lists. -/
theorem survey_withBytes (hroot : disk.find path = .ok (some root)) (hfolder : root.isFolder = true)
    (hproper : root.Proper) (hfound : discover dialect path root = .ok found)
    (hmem : file ∈ found) (bytes : List UInt8) :
    ∃ reports failures, sourcesBy dialect (disk.withBytes path file.names bytes) path = .ok found ∧
      surveyBy dialect (disk.withBytes path file.names bytes) path = .ok (reports, failures) ∧
      (reports.filter fun report => report.path ≠ file.path) =
        ((found.filterMap (report? disk path)).filter fun report => report.path ≠ file.path) ∧
      (failures.filter fun failure => failure.path ≠ file.path) =
        (found.filterMap (failure? disk path)).filter fun failure => failure.path ≠ file.path := by
  have hlisted := (mem_discover hproper hfound).mp hmem
  obtain ⟨old, hold⟩ := hlisted.file
  obtain ⟨hne, -⟩ := hlisted.isName hproper
  have hroot' := Disk.find_withBytes hroot hold bytes
  have hfound' := discover_put_file hproper hfound hmem bytes
  have hfolder' : (root.put file.names (.file bytes)).isFolder = true := by
    rw [Node.isFolder_eq, Node.isFile_put root hne, ← Node.isFolder_eq, hfolder]
  -- The same files are found, and all but one of them are read as before.
  have hsame : ∀ other ∈ found, other.path ≠ file.path →
      examine (disk.withBytes path file.names bytes) path other = examine disk path other := by
    intro other hother hpath
    apply examine_withBytes hroot hproper hfound hmem hother
    rintro rfl
    exact hpath rfl
  refine ⟨_, _, (sourcesBy_eq hroot').trans hfound', survey_folder hroot' hfolder' hfound', ?_, ?_⟩
  · apply filter_filterMap_congr (named_report? disk path) (named_report? _ path)
    intro other hother hpath
    rw [report?, report?, hsame other hother hpath]
  · apply filter_filterMap_congr (named_failure? disk path) (named_failure? _ path)
    intro other hother hpath
    rw [failure?, failure?, hsame other hother hpath]

/-- **A survey keeps files apart**, in whatever dialect pattern files are read. Each file that is
discovered below a folder is reported on or fails, by its own bytes; other bytes in one of them
change nothing about the others; and the survey of one of them alone says the same of it, but that
it ends with a fault if the path of the file is too long. The parts are `Divided`, `Judged`,
`survey_withBytes` and `survey_alone`. -/
theorem survey_keeps_apart (hroot : disk.find path = .ok (some root)) (hfolder : root.isFolder = true)
    (hproper : root.Proper) (hfound : sourcesBy dialect disk path = .ok found) :
    ∃ reports failures, surveyBy dialect disk path = .ok (reports, failures) ∧
      Divided found reports failures ∧
      ∀ file ∈ found, ∃ bytes, root.get? file.names = some (.file bytes) ∧
        Judged path file bytes reports failures ∧
        (∀ bytes', ∃ reports' failures',
          sourcesBy dialect (disk.withBytes path file.names bytes') path = .ok found ∧
          surveyBy dialect (disk.withBytes path file.names bytes') path = .ok (reports', failures') ∧
          (reports'.filter fun report => report.path ≠ file.path) =
            (reports.filter fun report => report.path ≠ file.path) ∧
          (failures'.filter fun failure => failure.path ≠ file.path) =
            failures.filter fun failure => failure.path ≠ file.path) ∧
        (Disk.tooFar path file.names = false →
          (∀ report ∈ reports, report.path = file.path →
            surveyBy dialect disk (path.below file.names) =
              .ok ([{ report with path := (path.below file.names).name }], [])) ∧
          (∀ failure ∈ failures, failure.path = file.path →
            surveyBy dialect disk (path.below file.names) =
              .ok ([], [{ failure with path := (path.below file.names).name }]))) ∧
        (Disk.tooFar path file.names = true →
          surveyBy dialect disk (path.below file.names) =
            .error (.unreadable (.path (.system (Disk.faultAt (path.below file.names) .tooLong))))) := by
  have hdiscovered : discover dialect path root = .ok found := by
    rw [← sourcesBy_eq hroot]
    exact hfound
  refine ⟨_, _, survey_folder hroot hfolder hdiscovered,
    divided_of_sorted disk path (discover_sorted hproper hdiscovered), ?_⟩
  intro file hmem
  have hlisted := (mem_discover hproper hdiscovered).mp hmem
  obtain ⟨bytes, hbytes⟩ := hlisted.file
  obtain ⟨hne, -⟩ := hlisted.isName hproper
  have halone := survey_alone dialect hroot hproper hne hbytes
  refine ⟨bytes, hbytes, judged_of_mem hroot hproper hdiscovered hmem hbytes,
    survey_withBytes hroot hfolder hproper hdiscovered hmem, ?_, ?_⟩
  · -- What the survey of the folder says under the path of the file is said of no other file.
    intro hnear
    rw [halone, hnear]
    constructor
    · intro report hreport hpath
      have hsaid := said_of_path (named_report? disk path) hproper hdiscovered hmem hreport hpath
      rw [report?_eq_some_iff.mp hsaid]
      rfl
    · intro failure hfailure hpath
      have hsaid := said_of_path (named_failure? disk path) hproper hdiscovered hmem hfailure hpath
      rw [failure?_eq_some_iff.mp hsaid]
      rfl
  · intro hfar
    rw [halone, if_pos hfar]

/-- A folder with two sources, one of which is no text. -/
def mixed : Node :=
  .folder [("a.spc".toList, .file (Utf8.encode "x;".toList)), ("b.spc".toList, .file [0xFF])]

theorem proper_mixed : mixed.Proper := by
  refine .folder (by decide) (by decide) ?_
  simp only [List.forall_mem_cons]
  exact ⟨.file _, .file _, nofun⟩

theorem sources_mixed : sources ⟨mixed, []⟩ ⟨.here, []⟩ =
    .ok [⟨["a.spc".toList]⟩, ⟨["b.spc".toList]⟩] := by
  refine (sourcesBy_eq rfl).trans (discover_eq_ok.mpr ⟨_, rfl, ?_⟩)
  exact (List.mergeSort_of_pairwise (by decide)).symm

theorem survey_keeps_apart_mixed :
    ∃ reports failures, survey ⟨mixed, []⟩ ⟨.here, []⟩ = .ok (reports, failures) ∧
      Divided [⟨["a.spc".toList]⟩, ⟨["b.spc".toList]⟩] reports failures ∧
      Report.ofText "a.spc".toList "x;".toList ∈ reports ∧
      "b.spc".toList ∈ failures.map Failure.path := by
  have hroot : (Disk.mk mixed []).find ⟨.here, []⟩ = .ok (some mixed) := rfl
  obtain ⟨reports, failures, hsurvey, hdivided, hfiles⟩ :=
    survey_keeps_apart hroot rfl proper_mixed sources_mixed
  refine ⟨reports, failures, hsurvey, hdivided, ?_, ?_⟩
  · obtain ⟨bytes, hbytes, hjudged, -⟩ := hfiles ⟨["a.spc".toList]⟩ (by simp)
    obtain rfl := Node.file.inj (Option.some.inj hbytes)
    exact hjudged.reported _ rfl (by decide)
  · obtain ⟨bytes, hbytes, hjudged, -⟩ := hfiles ⟨["b.spc".toList]⟩ (by simp)
    obtain rfl := Node.file.inj (Option.some.inj hbytes)
    refine hjudged.fails_iff.mpr (Or.inr fun raw hraw => ?_)
    have hundecodable : (Utf8.decode [0xFF]).toOption = none := by decide
    rw [Utf8.decode_eq_ok_iff.mpr hraw] at hundecodable
    cases hundecodable

end Workspace
end SpiceKit
