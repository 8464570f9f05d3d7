import KrakenMare.Lib.Rotation
import Mathlib.Data.List.Infix
import Mathlib.Data.List.Induction

/-!
# Log rotation

`RotatingFileHandlerWithCompression` of `fanin/KrakenMareLogger.py`, on top of the
`RotatingFileHandler` of Python's `logging.handlers`.  The library shifts the old logs `base.1`,
`base.2`, … and renames the current one to `base.1`; this class shifts the archives `base.1.gz`,
`base.2.gz`, … in the same way and compresses `base.1` into the first of them.

A file holds the list of the records written to it, each of them a formatted message that ends its
line.  Lengths count: a rollover starts when the next record would bring the file to `maxBytes`.

* `Rotated` — how things should stand: nothing raised, all records written, and what is missing
  from the files are whole archives, the oldest ones.
* `Archived.doRollover` — **the two renaming loops do that**, if the compression succeeds.  They are
  instances of `Lib.Rotation`.
* `rotated_wt` — with an archive that is opened for text every run is rotated properly.

The archive is opened `'wb'`, and the lines of a log that was opened without a mode are text.
Writing one raises a `TypeError`, which `handleError` swallows together with the record.  Only an
empty log can be compressed.

* `rotation_exact_iff` — **rotation works exactly as long as no record but the first starts a
  rollover.**  The condition is on the lengths of the records.
* `rotation_drops_record` — two records that do not fit.

The mode is a parameter of the model, so that both can be said about the same functions.
-/

namespace KrakenMare

open Lib

/-! ## The files -/

/-- `baseFilename`, `baseFilename.i` and `baseFilename.i.gz`. -/
inductive LogFile
  | base
  | old (i : ℕ)
  | compressed (i : ℕ)
deriving DecidableEq

/-- What the files hold; of a compressed one, what it decompresses to. -/
abbrev LogFiles := Rotation.Store LogFile (List String)

/-- `self.stream.tell()` at the end of a file, which counts bytes, a newline after each record
included. -/
def tell : List String → ℕ
  | [] => 0
  | record :: log => (record ++ "\n").utf8ByteSize + tell log

/-- `self._open()`, mode `'a'`: a file that is not there is created. -/
def openLog (files : LogFiles) : LogFiles :=
  if (files .base).isSome then files else Function.update files .base (some [])

/-- How the archive is opened: for bytes, as the class does it, or for text. -/
inductive GzipMode
  | wb
  | wt
deriving DecidableEq

/-- What `writelines` puts into the archive.  A file opened `'wb'` takes bytes, and the lines of a
log that was opened without a mode are text: the first of them raises a `TypeError`, which is the
`none`. -/
def GzipMode.writelines : GzipMode → List String → Option (List String)
  | wb, [] => some []
  | wb, _ :: _ => none
  | wt, log => some log

/-! ## The handler -/

/-- `RotatingFileHandler.doRollover` of the library, which the class here replaces with one that
compresses. -/
def RotatingFileHandler.doRollover (backupCount : ℕ) (files : LogFiles) : LogFiles :=
  openLog (if backupCount > 0 then
    let files := Rotation.shift .old (backupCount - 1) files
    let files := if (files (.old 1)).isSome then Rotation.remove (.old 1) files else files
    if (files .base).isSome then Rotation.rename .base (.old 1) files else files
  else files)

/-- `RotatingFileHandler.shouldRollover` of the library, which compares bytes of the file with
characters of the record. -/
def RotatingFileHandler.shouldRollover (maxBytes : ℤ) (record : String) (files : LogFiles) : Prop :=
  0 < maxBytes ∧ maxBytes ≤ tell ((files .base).getD []) + (record ++ "\n").length

instance (maxBytes : ℤ) (record : String) (files : LogFiles) :
    Decidable (RotatingFileHandler.shouldRollover maxBytes record files) :=
  inferInstanceAs (Decidable (_ ∧ _))

namespace RotatingFileHandlerWithCompression

/-- `doRollover`; the second component tells whether it returned.  The source has the mode `wb`. -/
def doRollover (mode : GzipMode) (backupCount : ℕ) (files : LogFiles) : LogFiles × Bool :=
  let files := RotatingFileHandler.doRollover backupCount files
  if backupCount > 0 then
    let files := Rotation.shift .compressed (backupCount - 1) files
    match files (.old 1) with
    | none => (files, false)
    | some log =>
        let files := Function.update files (.compressed 1) (some [])
        match mode.writelines log with
        | none => (files, false)
        | some content =>
            (Rotation.remove (.old 1) (Function.update files (.compressed 1) (some content)), true)
  else (files, true)

end RotatingFileHandlerWithCompression

/-- A handler and its files, with a record of what was written and of what went wrong. -/
structure LogHandler where
  files : LogFiles
  /-- the records that have been written, in order; not an attribute -/
  written : List String
  /-- how many calls of `doRollover` have raised; not an attribute -/
  raised : ℕ

namespace LogHandler

/-- A new handler where there are no files; the constructor opens the current one. -/
def start : LogHandler := ⟨openLog fun _ => none, [], 0⟩

/-- `StreamHandler.emit`: the record goes to the end of the current file. -/
def write (record : String) (h : LogHandler) : LogHandler :=
  { h with
    files := Function.update h.files .base (some ((h.files .base).getD [] ++ [record]))
    written := h.written ++ [record] }

section
variable (mode : GzipMode) (backupCount : ℕ) (maxBytes : ℤ)

/-- `BaseRotatingHandler.emit`: an exception goes to `handleError`, and the record is dropped. -/
def emit (h : LogHandler) (record : String) : LogHandler :=
  if RotatingFileHandler.shouldRollover maxBytes record h.files then
    match RotatingFileHandlerWithCompression.doRollover mode backupCount h.files with
    | (files, true) => write record { h with files := files }
    | (files, false) => { h with files := files, raised := h.raised + 1 }
  else h.write record

/-- The handler after a sequence of records, beginning with no files at all. -/
def log (records : List String) : LogHandler := records.foldl (emit mode backupCount maxBytes) start

lemma log_concat (records : List String) (r : String) :
    log mode backupCount maxBytes (records ++ [r])
      = emit mode backupCount maxBytes (log mode backupCount maxBytes records) r := by
  rw [log, List.foldl_append]
  rfl

end

/-! ## What rotation is for -/

/-- The archives are `base.1.gz`, the newest, up to `base.k.gz`, no old log is left uncompressed,
and the current file holds `log`. -/
structure Archived (backupCount : ℕ) (archives : List (List String)) (log : List String)
    (files : LogFiles) : Prop where
  base : files .base = some log
  old : ∀ i, files (.old i) = none
  compressed : Rotation.Holds .compressed (archives.take backupCount) files

/-- Nothing has raised, every record has been written, and the archives ever made, newest first, and
the current file are the whole log. -/
structure Standing (backupCount : ℕ) (archives : List (List String)) (log records : List String)
    (h : LogHandler) : Prop where
  raised : h.raised = 0
  written : h.written = records
  archived : Archived backupCount archives log h.files
  whole : archives.reverse.flatten ++ log = records

/-- The log has been rotated properly.  Of the archives only the newest `backupCount` are kept. -/
def Rotated (backupCount : ℕ) (records : List String) (h : LogHandler) : Prop :=
  ∃ archives log, Standing backupCount archives log records h

/-! ## One rollover -/

section
variable {mode : GzipMode} {n : ℕ} {archives : List (List String)} {log : List String}
  {files : LogFiles}

/-- A record is written to the current file only. -/
lemma Archived.write {m : ℕ} (h : Archived m archives log files) (r : String) :
    Archived m archives (log ++ [r])
      (Function.update files .base (some ((files .base).getD [] ++ [r]))) where
  base := by rw [Function.update_self, h.base, Option.getD_some]
  old := fun i => (Function.update_of_ne (by simp) ..).trans (h.old i)
  compressed := h.compressed.congr fun i => Function.update_of_ne (by simp) ..

lemma compressed_injective : Function.Injective LogFile.compressed :=
  fun _ _ => LogFile.compressed.inj

/-- The library leaves the log in `base.1` and starts a new one. -/
lemma Archived.libraryRollover {m : ℕ} (h : Archived m archives log files) :
    RotatingFileHandler.doRollover (n + 1) files
      = Function.update (Function.update files (.old 1) (some log)) .base (some []) := by
  have hshift : Rotation.shift .old n files = files := Rotation.shift_of_none h.old
  have hlibrary : RotatingFileHandler.doRollover (n + 1) files
      = openLog (Rotation.rename .base (.old 1) files) := by
    simp [RotatingFileHandler.doRollover, hshift, h.old, h.base]
  have hnew : Rotation.rename .base (.old 1) files .base = none := Function.update_self ..
  rw [hlibrary, openLog, hnew, if_neg (by simp), Rotation.rename, Function.update_idem, h.base]

/-- The log is then shifted and compressed. -/
lemma Archived.doRollover_eq {m : ℕ} (h : Archived m archives log files) :
    RotatingFileHandlerWithCompression.doRollover mode (n + 1) files =
      let shifted := Rotation.shift .compressed n
        (Function.update (Function.update files (.old 1) (some log)) .base (some []))
      match mode.writelines log with
      | none => (Function.update shifted (.compressed 1) (some []), false)
      | some content => (Rotation.remove (.old 1)
          (Function.update shifted (.compressed 1) (some content)), true) := by
  have hold : Rotation.shift .compressed n (Function.update (Function.update files (.old 1)
      (some log)) .base (some [])) (.old 1) = some log := by
    rw [Rotation.shift_of_ne (by simp)]
    simp
  rw [RotatingFileHandlerWithCompression.doRollover, h.libraryRollover]
  simp only [gt_iff_lt, Nat.succ_pos, if_true, Nat.add_sub_cancel, hold, Function.update_idem]

/-- **The loops are right.**  If the log can be compressed it becomes the newest archive, the
oldest one goes if there are more than `backupCount`, and an empty log takes its place. -/
theorem Archived.doRollover (h : Archived (n + 1) archives log files)
    (hcompress : mode.writelines log = some log) : ∃ files',
    RotatingFileHandlerWithCompression.doRollover mode (n + 1) files = (files', true) ∧
      Archived (n + 1) (log :: archives) [] files' := by
  rw [h.doRollover_eq, hcompress]
  refine ⟨_, rfl, ?_, fun i => ?_, ?_⟩
  · rw [Rotation.remove, Function.update_of_ne (by simp), Function.update_of_ne (by simp),
      Rotation.shift_of_ne (by simp), Function.update_self]
  · by_cases hi : i = 1
    · subst hi
      exact Function.update_self ..
    · rw [Rotation.remove, Function.update_of_ne (by simpa), Function.update_of_ne (by simp),
        Rotation.shift_of_ne (by simp), Function.update_of_ne (by simp),
        Function.update_of_ne (by simpa)]
      exact h.old i
  · have hpushed := (h.compressed.congr (g := Function.update (Function.update files (.old 1)
      (some log)) .base (some [])) fun i => by simp).push compressed_injective
      (List.length_take_le _ _) log
    rw [List.take_take, Nat.min_eq_left (Nat.le_succ n)] at hpushed
    exact hpushed.congr fun i => Function.update_of_ne (by simp) ..

/-- A log that cannot be compressed raises. -/
lemma Archived.doRollover_raises {m : ℕ} (h : Archived m archives log files)
    (hcompress : mode.writelines log = none) :
    (RotatingFileHandlerWithCompression.doRollover mode (n + 1) files).2 = false := by
  rw [h.doRollover_eq, hcompress]

end

/-! ## Every sequence of records -/

section
variable {mode : GzipMode} {n : ℕ} {maxBytes : ℤ} {archives : List (List String)}
  {log' records : List String} {h : LogHandler}

lemma standing_start (m : ℕ) : Standing m [] [] [] start where
  raised := rfl
  written := rfl
  archived := ⟨rfl, fun _ => rfl, rfl, fun i => by rw [List.take_nil]; rfl⟩
  whole := rfl

lemma Standing.emit_below (hs : Standing (n + 1) archives log' records h) {r : String}
    (hbelow : ¬ RotatingFileHandler.shouldRollover maxBytes r h.files) :
    Standing (n + 1) archives (log' ++ [r]) (records ++ [r]) (h.emit mode (n + 1) maxBytes r) := by
  rw [LogHandler.emit, if_neg hbelow]
  refine ⟨hs.raised, congrArg (· ++ [r]) hs.written, hs.archived.write r, ?_⟩
  rw [← List.append_assoc, hs.whole]

lemma Standing.emit_roll (hs : Standing (n + 1) archives log' records h) {r : String}
    (hroll : RotatingFileHandler.shouldRollover maxBytes r h.files)
    (hcompress : mode.writelines log' = some log') :
    Standing (n + 1) (log' :: archives) [r] (records ++ [r])
      (h.emit mode (n + 1) maxBytes r) := by
  obtain ⟨files, hdone, hfiles⟩ := hs.archived.doRollover hcompress
  rw [LogHandler.emit, if_pos hroll, hdone]
  refine ⟨hs.raised, congrArg (· ++ [r]) hs.written, hfiles.write r, ?_⟩
  rw [List.reverse_cons, List.flatten_append, List.flatten_singleton, hs.whole]

/-- What rotation is for, at every moment of a run: the files hold the records, but for the oldest
ones. -/
def LosesOnlyOldest (mode : GzipMode) (backupCount : ℕ) (maxBytes : ℤ)
    (records : List String) : Prop :=
  ∀ pre, pre <+: records → Rotated backupCount pre (log mode backupCount maxBytes pre)

/-- **With a text archive rotation works.**  The loops need nothing but a compression that
succeeds. -/
theorem rotated_wt (records : List String) :
    Rotated (n + 1) records (log .wt (n + 1) maxBytes records) := by
  induction records using List.reverseRecOn with
  | nil => exact ⟨[], [], standing_start _⟩
  | append_singleton records r ih =>
      obtain ⟨archives, log', hs⟩ := ih
      rw [log_concat]
      by_cases hroll : RotatingFileHandler.shouldRollover maxBytes r
          (log .wt (n + 1) maxBytes records).files
      · exact ⟨_, _, hs.emit_roll hroll rfl⟩
      · exact ⟨_, _, hs.emit_below hroll⟩

/-! ### As the source has it -/

/-- No record but the first starts a rollover; a rollover of the empty log has no line to
compress. -/
def NoLateRollover (maxBytes : ℤ) (records : List String) : Prop :=
  ∀ pre r, pre ++ [r] <+: records → pre ≠ [] →
    maxBytes ≤ 0 ∨ tell pre + (r ++ "\n").length < maxBytes

lemma noLateRollover_nil (maxBytes : ℤ) : NoLateRollover maxBytes [] := fun _ _ hpre =>
  absurd (List.prefix_nil.mp hpre) (by simp)

lemma noLateRollover_concat (r : String) : NoLateRollover maxBytes (records ++ [r])
    ↔ NoLateRollover maxBytes records ∧
      (records ≠ [] → maxBytes ≤ 0 ∨ tell records + (r ++ "\n").length < maxBytes) := by
  constructor
  · intro hall
    exact ⟨fun pre r' hpre => hall pre r' (hpre.trans (List.prefix_append _ _)),
      hall records r (List.prefix_refl _)⟩
  · rintro ⟨hinit, hlast⟩ pre r' hpre hne
    rcases List.prefix_concat_iff.mp hpre with heq | hpre
    · obtain ⟨rfl, rfl⟩ := List.append_singleton_inj.mp heq
      exact hlast hne
    · exact hinit pre r' hpre hne

lemma shouldRollover_iff (hs : Standing (n + 1) archives log' records h) (r : String) :
    RotatingFileHandler.shouldRollover maxBytes r h.files
      ↔ ¬ (maxBytes ≤ 0 ∨ tell log' + (r ++ "\n").length < maxBytes) := by
  rw [RotatingFileHandler.shouldRollover, hs.archived.base, Option.getD_some, not_or, Int.not_le,
    Int.not_lt]

/-- Until then the current file is the whole log, and the only archive may be an empty one. -/
lemma whole_log : ∀ {records : List String}, NoLateRollover maxBytes records →
    ∃ archives, Standing (n + 1) archives records records (log .wb (n + 1) maxBytes records) := by
  intro records
  induction records using List.reverseRecOn with
  | nil => exact fun _ => ⟨[], standing_start _⟩
  | append_singleton records r ih =>
      intro hnone
      obtain ⟨hinit, hlast⟩ := (noLateRollover_concat r).mp hnone
      obtain ⟨archives, hs⟩ := ih hinit
      rw [log_concat]
      by_cases hroll : RotatingFileHandler.shouldRollover maxBytes r
          (log .wb (n + 1) maxBytes records).files
      · cases records with
        | nil => exact ⟨_, hs.emit_roll hroll rfl⟩
        | cons r' records => exact absurd (hlast (by simp)) ((shouldRollover_iff hs r).mp hroll)
      · exact ⟨_, hs.emit_below hroll⟩

/-- Any other rollover raises. -/
lemma not_rotated_of_roll (hs : Standing (n + 1) archives records records h) {r : String}
    (hne : records ≠ []) (hroll : RotatingFileHandler.shouldRollover maxBytes r h.files) :
    ¬ Rotated (n + 1) (records ++ [r]) (h.emit .wb (n + 1) maxBytes r) := by
  have hraises : (RotatingFileHandlerWithCompression.doRollover .wb (n + 1) h.files).2 = false := by
    refine hs.archived.doRollover_raises ?_
    cases records with
    | nil => exact absurd rfl hne
    | cons r' records => rfl
  rintro ⟨archives', log', hs'⟩
  have hraised := hs'.raised
  rw [LogHandler.emit, if_pos hroll] at hraised
  cases hdone : RotatingFileHandlerWithCompression.doRollover .wb (n + 1) h.files with
  | mk files returned =>
      rw [hdone] at hraises hraised
      cases hraises
      exact Nat.succ_ne_zero _ hraised

/-- **Rotation.**  It loses only the oldest archives exactly as long as no record but the first
starts a rollover: the first one that finds something to compress raises, and drops the record. -/
theorem rotation_exact_iff {backupCount : ℕ} (hk : 1 ≤ backupCount) (maxBytes : ℤ)
    (records : List String) :
    LosesOnlyOldest .wb backupCount maxBytes records ↔ NoLateRollover maxBytes records := by
  obtain ⟨n, rfl⟩ : ∃ n, backupCount = n + 1 := ⟨backupCount - 1, by omega⟩
  constructor
  · induction records using List.reverseRecOn with
    | nil => exact fun _ => noLateRollover_nil maxBytes
    | append_singleton records r ih =>
        intro hall
        have hinit := ih fun pre hpre => hall pre (hpre.trans (List.prefix_append _ _))
        obtain ⟨archives, hs⟩ := whole_log (n := n) hinit
        have hrotated := hall _ (List.prefix_refl _)
        rw [log_concat] at hrotated
        refine (noLateRollover_concat r).mpr ⟨hinit, fun hne => ?_⟩
        by_contra hlate
        exact not_rotated_of_roll hs hne ((shouldRollover_iff hs r).mpr hlate) hrotated
  · intro hnone pre hpre
    have hpre' : NoLateRollover maxBytes pre := fun pre' r hpre' => hnone pre' r (hpre'.trans hpre)
    obtain ⟨archives, hs⟩ := whole_log (n := n) hpre'
    exact ⟨archives, pre, hs⟩

/-- Two short records in a log of a kilobyte, which never comes to a rollover. -/
theorem rotation_exact_two_records :
    LosesOnlyOldest .wb 5 1024 ["TestData1: 0", "TestData2 From New Logger: 0"] := by
  have hfirst : NoLateRollover 1024 ([] ++ ["TestData1: 0"]) :=
    (noLateRollover_concat _).mpr ⟨noLateRollover_nil 1024, fun hne => absurd rfl hne⟩
  have hboth : NoLateRollover 1024 (["TestData1: 0"] ++ ["TestData2 From New Logger: 0"]) :=
    (noLateRollover_concat _).mpr ⟨hfirst, fun _ => .inr (by decide +kernel)⟩
  exact (rotation_exact_iff (by decide) 1024 _).mpr hboth

/-- Two records that do not fit: the second one is dropped, and the first one stands in `base.1`,
which is not compressed. -/
theorem rotation_drops_record :
    let h := log .wb 5 20 ["TestData1: 0", "TestData1: 1"]
    h.raised = 1 ∧ h.written = ["TestData1: 0"] ∧ h.files .base = some [] ∧
      h.files (.old 1) = some ["TestData1: 0"] ∧ h.files (.compressed 1) = some [] ∧
      ¬ LosesOnlyOldest .wb 5 20 ["TestData1: 0", "TestData1: 1"] := by
  refine ⟨by decide +kernel, by decide +kernel, by decide +kernel, by decide +kernel,
    by decide +kernel, fun h => ?_⟩
  obtain ⟨archives, log', hs⟩ := h _ (List.prefix_refl _)
  exact absurd hs.raised (by decide +kernel)

end

end LogHandler

end KrakenMare
