import PersonRelations.Command.Program
import PersonRelations.Proofs.Output.Opening
import PersonRelations.Proofs.Run.Files
import PersonRelations.Proofs.Settings.Documents

/-!
# What the exit status says

A command line that asks for a run can end in four ways: there are no settings, the run failed, the
summary could not be written, or all went well. Only the last has the status 0, and each leaves the
files as the last thing left them that was done.

* `FileTree.Takes`: what can be written to a path, said of where the path leads.
* `FileTree.writeFile_cases`: writing a file whole rewrites one file and nothing else, or puts
  everything into the null device, or is refused. A refused summary has not emptied a file, since
  nothing but a device refuses data.
* `Command.execute_of_settings`: the program with settings is its run and what is made of it.
-/

namespace PersonRelations

/-! ### Writing a file whole -/

namespace FileTree

variable {t t' : FileTree} {loc : Location} {path : Path}

/-- The second tree is the first with the content in the file at the location. -/
structure Rewritten (t t' : FileTree) (loc : Location) (content : ByteArray) : Prop where
  workDir_eq : t'.workDir = t.workDir
  get?_self : t'.get? loc = some (.file content)
  get?_of_ne : ∀ m ≠ loc, t'.get? m = t.get? m

/-- The path leads to the device that takes everything and keeps nothing. -/
def LeadsToNull (t : FileTree) (path : Path) : Prop :=
  ∃ loc, t.locate path = .ok (.occupied loc (.device .null) false)

/-- Data can be written to the path: it stands for a file or leads to the null device. -/
def Takes (t : FileTree) (path : Path) : Prop :=
  (∃ loc, t.StandsFor path loc) ∨ t.LeadsToNull path

theorem put_put (t : FileTree) (loc : Location) (e e' : Entry) :
    (t.put loc e).put loc e' = t.put loc e' := by
  simp [put, List.filter_filter]

theorem StandsFor.create (h : t.StandsFor path loc) :
    t.create path = .ok (t.put loc (.file .empty), .file loc 0) := by
  obtain ⟨place, hplace, hloc⟩ := h
  unfold FileTree.create
  rw [hplace]
  rcases place with ⟨m, ⟨c⟩ | _ | target | d, ⟨⟩⟩ | ⟨d, n, ⟨⟩⟩ <;> cases hloc <;> rfl

/-- **A file is written whole**, whatever it had before. -/
theorem StandsFor.writeFile (h : t.StandsFor path loc) (data : ByteArray) :
    t.writeFile path data = (t.put loc (.file data), none) := by
  have hempty : (t.put loc (.file .empty)).content loc = .empty :=
    content_of_get? (get?_put_self t h.takesFile.ne_nil _)
  have hover : overwrite .empty 0 data = data :=
    (overwrite_size .empty data).trans ByteArray.empty_append
  unfold FileTree.writeFile
  simp only [h.create, write]
  cases hdata : data.isEmpty with
  | true =>
    have hsize : data.size = 0 := by simpa [ByteArray.isEmpty] using hdata
    rw [ByteArray.size_eq_zero_iff.1 hsize]
    rfl
  | false => simp only [Bool.false_eq_true, if_false, hempty, hover, put_put]

theorem LeadsToNull.writeFile (h : t.LeadsToNull path) (data : ByteArray) :
    t.writeFile path data = (t, none) := by
  obtain ⟨loc, hloc⟩ := h
  have hcreate : t.create path = .ok (t, .device .null) := by
    rw [create, hloc]
    rfl
  unfold FileTree.writeFile
  simp only [hcreate, write]
  cases data.isEmpty <;> rfl

/-- **A refused write leaves the tree.** -/
theorem writeFile_cases (t : FileTree) (path : Path) {data : ByteArray}
    (hdata : data.isEmpty = false) :
    t.Takes path ∨ ∃ e, t.writeFile path data = (t, some e) := by
  rcases hcreate : t.create path with e | ⟨t', h⟩
  · exact .inr ⟨e, by rw [FileTree.writeFile, hcreate]⟩
  · obtain ⟨-, hopened⟩ := opened_of_create hcreate
    obtain rfl | ⟨loc, hstands, rfl⟩ := create_cases hcreate
    · rcases h with ⟨loc, offset⟩ | d
      · exact .inl (.inl ⟨loc, _, hopened.2, rfl⟩)
      · cases d with
        | null => exact .inl (.inr hopened)
        | full =>
          -- the device is opened, and then takes none of the data
          refine .inr ⟨.noSpace, ?_⟩
          simp only [FileTree.writeFile, hcreate, write, hdata, Bool.false_eq_true, if_false]
    · exact .inl (.inl ⟨loc, hstands⟩)

/-- What was written can be read through the path. -/
theorem StandsFor.readsAs_put (h : t.StandsFor path loc) (text : String) :
    (t.put loc (.file text.toUTF8)).ReadsAs path text := by
  have hmade := get?_put_self t h.takesFile.ne_nil (.file text.toUTF8)
  have hstands := (Extends.put h.takesFile text.toUTF8).standsFor_iff.2 h
  obtain ⟨place, hplace, hloc⟩ := hstands
  have hagrees := agrees_of_locate hplace
  rw [ReadsAs, openRead, hplace]
  rcases place with ⟨m, ⟨c⟩ | _ | target | d, ⟨⟩⟩ | ⟨d, n, ⟨⟩⟩ <;> cases hloc
  · obtain hdir | hget := hagrees
    · cases hdir
    · obtain rfl := Entry.file.inj (Option.some.inj (hget.symm.trans hmade))
      rfl
  · exact absurd (hmade.symm.trans hagrees) (Option.some_ne_none _)

theorem StandsFor.rewritten (h : t.StandsFor path loc) (data : ByteArray) :
    t.Rewritten (t.put loc (.file data)) loc data :=
  ⟨rfl, get?_put_self t h.takesFile.ne_nil _, fun _ hm ↦ get?_put_of_ne t hm _⟩

end FileTree

/-! ### The end of the program -/

/-- A summary has at least a brace. -/
theorem Stats.isEmpty_prettyJson (stats : Stats) : stats.prettyJson.toUTF8.isEmpty = false := by
  have hbrace : stats.prettyJson ≠ "" := by
    intro h
    have hlist := congrArg String.toList h
    rw [prettyJson, toTree, CountTree.pretty] at hlist
    simp at hlist
  have hsize : stats.prettyJson.toUTF8.size ≠ 0 := fun h ↦
    hbrace (String.utf8ByteSize_eq_zero_iff.1 h)
  simpa [ByteArray.isEmpty] using hsize

namespace Command

variable {args : List Word} {x : Invocation} {env : Environment} {t : FileTree} {s : Settings}

/-- Without settings nothing is done. -/
theorem execute_of_refused {e : SettingsError} (hparse : Invocation.parse args = .ok x)
    (hsettings : x.settings env t = .error e) (elapsed : Count) :
    execute args env t elapsed = refusedSettings e t := by
  unfold execute start
  simp only [hparse, hsettings, Started.finish]

/-- **With settings** the program is its run and what is made of it. -/
theorem execute_of_settings (hparse : Invocation.parse args = .ok x)
    (hsettings : x.settings env t = .ok s) (elapsed : Count) : execute args env t elapsed =
      (Finished.mk x (.ofSettings s.log (env.text logVariable))
        (run s t x.input elapsed)).execution := by
  unfold execute start
  simp only [hparse, hsettings, Started.finish]
  rfl

namespace Finished

variable {f : Finished} {stats : Stats} {path : Path} {loc : Location}

/-- A run that failed is the end. -/
theorem execution_of_error {e : Error} (h : f.run.result = .error e) :
    f.execution.code = 1 ∧ f.execution.tree = f.run.tree := by
  simp [execution, h, runFailed, failed]

/-- A run that went well is the end if no summary is asked for. -/
theorem execution_of_ok (h : f.run.result = .ok stats) (hsummary : f.invocation.summary? = none) :
    f.execution.code = 0 ∧ f.execution.tree = f.run.tree := by
  simp [execution, h, hsummary]

/-- Otherwise the summary is written, and the end is as that went. -/
theorem execution_of_written (h : f.run.result = .ok stats)
    (hsummary : f.invocation.summary? = some path)
    (hwrite : f.run.tree.writeFile path stats.prettyJson.toUTF8 = (t, none)) :
    f.execution.code = 0 ∧ f.execution.tree = t := by
  constructor <;> simp only [execution, h, hsummary, writeSummary, hwrite]

theorem execution_of_unwritten {e : FileError} (h : f.run.result = .ok stats)
    (hsummary : f.invocation.summary? = some path)
    (hwrite : f.run.tree.writeFile path stats.prettyJson.toUTF8 = (t, some e)) :
    f.execution.code = 1 ∧ f.execution.tree = t := by
  constructor <;> simp only [execution, h, hsummary, writeSummary, hwrite, failed]

end Finished

end Command

open Command in
/-- **The exit status tells the truth.** Without settings it is 1 and nothing was done; after a run
that failed it is 1 and the files are as the run left them. After a run that went well it is 0 if
and only if no summary is asked for or the path of the summary takes it, and the files are as the
run left them but for the summary, which has the counters as its whole text. A summary that is
refused leaves no trace, and neither does one that goes to the null device. -/
theorem exit_status_truthful {args : List Word} {x : Invocation}
    (hparse : Invocation.parse args = .ok x) (env : Environment) (t : FileTree) (elapsed : Count) :
    (∀ e, x.settings env t = .error e →
      (execute args env t elapsed).code = 1 ∧ (execute args env t elapsed).tree = t) ∧
    ∀ s, x.settings env t = .ok s →
      (∀ e, (run s t x.input elapsed).result = .error e →
        (execute args env t elapsed).code = 1 ∧
          (execute args env t elapsed).tree = (run s t x.input elapsed).tree) ∧
      ∀ stats, (run s t x.input elapsed).result = .ok stats →
        ((execute args env t elapsed).code = 0 ↔
          ∀ path, x.summary? = some path → (run s t x.input elapsed).tree.Takes path) ∧
        ((execute args env t elapsed).code ≠ 0 → (execute args env t elapsed).code = 1 ∧
          (execute args env t elapsed).tree = (run s t x.input elapsed).tree) ∧
        (x.summary? = none →
          (execute args env t elapsed).tree = (run s t x.input elapsed).tree) ∧
        ∀ path, x.summary? = some path →
          (∀ loc, (run s t x.input elapsed).tree.StandsFor path loc →
            (run s t x.input elapsed).tree.Rewritten (execute args env t elapsed).tree loc
              stats.prettyJson.toUTF8 ∧
            (execute args env t elapsed).tree.ReadsAs path stats.prettyJson) ∧
          ((run s t x.input elapsed).tree.LeadsToNull path →
            (execute args env t elapsed).tree = (run s t x.input elapsed).tree) := by
  refine ⟨fun e hsettings ↦ ?_, fun s hsettings ↦ ⟨fun e hrun ↦ ?_, fun stats hrun ↦ ?_⟩⟩
  · rw [execute_of_refused hparse hsettings]
    exact ⟨rfl, rfl⟩
  · rw [execute_of_settings hparse hsettings]
    exact Finished.execution_of_error hrun
  · rw [execute_of_settings hparse hsettings]
    generalize hf : Finished.mk x (.ofSettings s.log (env.text logVariable))
      (run s t x.input elapsed) = f
    obtain rfl : f.invocation = x := by rw [← hf]
    have hr : f.run = run s t f.invocation.input elapsed := by rw [← hf]
    rw [← hr] at hrun ⊢
    clear hf hr
    rcases hsummary : f.invocation.summary? with _ | path
    · obtain ⟨hcode, htree⟩ := Finished.execution_of_ok hrun hsummary
      exact ⟨⟨fun _ _ ↦ nofun, fun _ ↦ hcode⟩, fun h ↦ absurd hcode h, fun _ ↦ htree, fun _ ↦ nofun⟩
    · have hstands {loc : Location} (h : f.run.tree.StandsFor path loc) :=
        Finished.execution_of_written hrun hsummary (h.writeFile _)
      have hnull (h : f.run.tree.LeadsToNull path) :=
        Finished.execution_of_written hrun hsummary (h.writeFile _)
      have htaken (h : f.run.tree.Takes path) : f.execution.code = 0 :=
        h.elim (fun ⟨_, hloc⟩ ↦ (hstands hloc).1) fun h ↦ (hnull h).1
      have hrefused (h : ¬f.run.tree.Takes path) :
          f.execution.code = 1 ∧ f.execution.tree = f.run.tree := by
        obtain ⟨e, hwrite⟩ :=
          (f.run.tree.writeFile_cases path stats.isEmpty_prettyJson).resolve_left h
        exact Finished.execution_of_unwritten hrun hsummary hwrite
      refine ⟨⟨fun hcode ↦ ?_, fun h ↦ htaken (h path rfl)⟩, fun hcode ↦ ?_, nofun, ?_⟩
      · rintro _ ⟨rfl⟩
        by_contra h
        exact absurd (hcode.symm.trans (hrefused h).1) (by decide)
      · exact hrefused fun h ↦ hcode (htaken h)
      · rintro _ ⟨rfl⟩
        refine ⟨fun loc h ↦ ?_, fun h ↦ (hnull h).2⟩
        rw [(hstands h).2]
        exact ⟨h.rewritten _, h.readsAs_put _⟩

/-- A run leaves what its files were opened in, with files in it changed. -/
theorem Run.Starts.extends_tree {s : Settings} {t : FileTree} {input : Path} {files : RelationFiles}
    {dump : Source} (h : Run.Starts s t input files dump) (elapsed : Count) :
    files.tree.Extends (run s t input elapsed).tree := by
  rw [(h.run_eq elapsed).1, Run.tree_extractInto]
  exact RelationFiles.extends_close_writeAll (RelationFiles.opened_of_createIn h.opened) _

/-- A command line that asks for a summary. -/
def summaryWords : List Command.Word :=
  ["dump.gz", "--summary", "stats.json"].map fun w ↦ (Path.ofString w).bytes

/-- Three lines are read, and the summary says so. -/
theorem exit_status_truthful_three_lines :
    ∃ stats, (run {} (peopleTree threeLineDump) (.ofString "dump.gz") 5).result = .ok stats ∧
      stats.linesRead = 3 ∧
      (Command.execute summaryWords (fun _ ↦ none) (peopleTree threeLineDump) 5).code = 0 ∧
      (Command.execute summaryWords (fun _ ↦ none) (peopleTree threeLineDump) 5).tree.ReadsAs
        (.ofString "stats.json") stats.prettyJson := by
  have hparse : Command.Invocation.parse summaryWords =
      .ok { input := .ofString "dump.gz", summary? := some (.ofString "stats.json") } := by cbv
  have hend : LineItem.ending 0 (Entry.file threeLineDump).dumpSource.lines = none := by
    decide +kernel
  have hthree : (UInt64.ofNat (LineItem.countable 0
      (Entry.file threeLineDump).dumpSource.lines).length) = 3 := by decide +kernel
  have hstarts := starts_peopleTree threeLineDump
  have hfree : (peopleFiles threeLineDump).tree.StandsFor (.ofString "stats.json")
      (.ofStrings ["stats.json"]) :=
    ⟨.vacant [] (Path.ofString "stats.json").bytes false, by cbv, rfl⟩
  have hstands := (hstarts.extends_tree 5).standsFor_iff.2 hfree
  obtain ⟨-, hok⟩ := Run.files_of_starts hstarts (distinctFiles_peopleTree threeLineDump 5)
  simp only [hend] at hok
  obtain ⟨-, hsettings⟩ :=
    exit_status_truthful hparse (fun _ ↦ none) (peopleTree threeLineDump) 5
  obtain ⟨hcode, -, -, hsummary⟩ := (hsettings {} rfl).2 _ hok
  refine ⟨_, hok, hthree, hcode.2 ?_, ((hsummary _ rfl).1 _ hstands).2⟩
  rintro _ ⟨rfl⟩
  exact .inl ⟨_, hstands⟩

end PersonRelations
