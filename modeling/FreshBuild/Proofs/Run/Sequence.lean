/-
# FreshBuild.Proofs.Run.Sequence — which tools a run calls, in which order, and on what.

A run has four ways to go (`Runs`), and the runner has no say in which one beyond its answers: it may
rewrite the disk between the steps as it likes. From the four ways follows what a caller can rely on
(`Orderly`): the calls are a prefix of configure and build, none is made unless the build directory
could be reset, and the first one finds that directory empty.

The transcript lists the calls a run claims to have made. That these are the calls the runner received
is a fact about `execute` and not about the list, so it is proved against a runner that keeps a diary
(`execute_logged`).
-/
import FreshBuild.Recorder
import FreshBuild.Proofs.BuildDir.Reset

namespace FreshBuild

variable {σ : Type}

/-- The runner with a diary: it writes down each call it receives and what the disk was like. -/
def Runner.logged (runner : Runner σ) : Runner (σ × List Call) := fun d s i =>
  let reply := runner d s.1 i
  { disk := reply.disk
    state := (reply.state, s.2 ++ [⟨d, i⟩])
    answer := reply.answer }

namespace Transcript

/-- The invocations of a run, in order. -/
def invocations (t : Transcript σ) : List Invocation := t.calls.map Call.invocation

/-- The run has done nothing but to say that no directory stands at `p`. -/
def Refuses (t : Transcript σ) (d : Disk) (p : Path) : Prop :=
  t.disk = d ∧ t.calls = [] ∧ t.result = .error (.notADirectory p)

end Transcript

namespace Plan

/-- The reply to the first call, made on the disk that the reset has left. -/
def firstReply (p : Plan) (runner : Runner σ) (d₀ : Disk) (s : σ) : Reply σ :=
  runner d₀ s p.configure

/-- The reply to the second call, made on the disk that the first call has left. -/
def secondReply (p : Plan) (runner : Runner σ) (d₀ : Disk) (s : σ) : Reply σ :=
  runner (p.firstReply runner d₀ s).disk (p.firstReply runner d₀ s).state p.build

/-- An answer to the first call that lets the second one happen. -/
def GoesOn (p : Plan) (answer : Except Fault Outcome) : Prop :=
  ∃ o, answer = .ok o ∧ (o.isSuccess = true ∨ p.keepGoing = true)

/-! ## The four ways of a run -/

/-- The runs of a plan, by where they end. -/
inductive Runs (p : Plan) (at_ : Location) (runner : Runner σ) (d : Disk) (s : σ) :
    Transcript σ → Prop where
  /-- The build directory could not be reset. -/
  | refused {d₀ : Disk} {fault : Fault}
      (hreset : BuildDir.reset d at_ p.buildDir = (d₀, .error fault)) :
      Runs p at_ runner d s ⟨d₀, s, [], .error fault⟩
  /-- The configure tool could not be run. -/
  | unconfigured {d₀ : Disk} {fault : Fault}
      (hreset : BuildDir.reset d at_ p.buildDir = (d₀, .ok ()))
      (hfirst : (p.firstReply runner d₀ s).answer = .error fault) :
      Runs p at_ runner d s
        ⟨(p.firstReply runner d₀ s).disk, (p.firstReply runner d₀ s).state, [⟨d₀, p.configure⟩],
          .error fault⟩
  /-- The configure tool had no success, and that is the end of it. -/
  | skipped {d₀ : Disk} {o : Outcome}
      (hreset : BuildDir.reset d at_ p.buildDir = (d₀, .ok ()))
      (hfirst : (p.firstReply runner d₀ s).answer = .ok o)
      (hfailed : o.isSuccess = false) (hstop : p.keepGoing = false) :
      Runs p at_ runner d s
        ⟨(p.firstReply runner d₀ s).disk, (p.firstReply runner d₀ s).state, [⟨d₀, p.configure⟩],
          .ok ⟨p.buildDir, o, none⟩⟩
  /-- Both tools were called. -/
  | built {d₀ : Disk} {o : Outcome}
      (hreset : BuildDir.reset d at_ p.buildDir = (d₀, .ok ()))
      (hfirst : (p.firstReply runner d₀ s).answer = .ok o)
      (hgoes : o.isSuccess = true ∨ p.keepGoing = true) :
      Runs p at_ runner d s
        ⟨(p.secondReply runner d₀ s).disk, (p.secondReply runner d₀ s).state,
          [⟨d₀, p.configure⟩, ⟨(p.firstReply runner d₀ s).disk, p.build⟩],
          (p.secondReply runner d₀ s).answer.map fun build => ⟨p.buildDir, o, some build⟩⟩

variable {p : Plan} {at_ : Location} {runner : Runner σ} {d : Disk} {s : σ}

theorem execute_runs (p : Plan) (at_ : Location) (runner : Runner σ) (d : Disk) (s : σ) :
    Runs p at_ runner d s (p.execute at_ runner d s) := by
  unfold execute
  split
  · rename_i d₀ fault hreset
    exact .refused hreset
  · rename_i d₀ hreset
    cases hfirst : (p.firstReply runner d₀ s).answer with
    | error fault =>
        have hanswer : (runner d₀ s p.configure).answer = .error fault := hfirst
        simp only [hanswer]
        exact .unconfigured hreset hfirst
    | ok o =>
        have hanswer : (runner d₀ s p.configure).answer = .ok o := hfirst
        simp only [hanswer]
        split
        · rename_i hgoes
          exact .built hreset hfirst (by simpa using hgoes)
        · rename_i hstop
          simp only [Bool.or_eq_true, not_or, Bool.not_eq_true] at hstop
          exact .skipped hreset hfirst hstop.1 hstop.2

theorem execute_of_reset_error {d₀ : Disk} {fault : Fault}
    (hreset : BuildDir.reset d at_ p.buildDir = (d₀, .error fault)) (runner : Runner σ) (s : σ) :
    p.execute at_ runner d s = ⟨d₀, s, [], .error fault⟩ := by
  unfold execute
  rw [hreset]

/-- A run refuses exactly what its reset refuses. -/
theorem execute_refuses_iff :
    (p.execute at_ runner d s).Refuses d p.buildDir ↔
      BuildDir.reset d at_ p.buildDir = (d, .error (.notADirectory p.buildDir)) := by
  constructor
  · rintro ⟨hdisk, hcalls, hresult⟩
    have hruns := execute_runs p at_ runner d s
    generalize p.execute at_ runner d s = t at *
    cases hruns with
    | refused hreset =>
        cases hdisk
        cases hresult
        exact hreset
    | unconfigured | skipped | built => cases hcalls
  · intro hreset
    rw [execute_of_reset_error hreset]
    exact ⟨rfl, rfl, rfl⟩

/-- **A diary changes nothing, and it holds the calls of the transcript.** -/
theorem execute_logged (p : Plan) (at_ : Location) (runner : Runner σ) (d : Disk) (s : σ)
    (diary : List Call) :
    p.execute at_ runner.logged d (s, diary) =
      { disk := (p.execute at_ runner d s).disk
        state := ((p.execute at_ runner d s).state, diary ++ (p.execute at_ runner d s).calls)
        calls := (p.execute at_ runner d s).calls
        result := (p.execute at_ runner d s).result } := by
  unfold execute
  split
  · simp
  · rename_i d₀ hreset
    simp only [Runner.logged]
    cases (runner d₀ s p.configure).answer with
    | error fault => rfl
    | ok o =>
        simp only
        split <;> simp

/-! ## What a caller can rely on -/

/-- The part of a run that follows a reset which left the disk `d₀`. -/
structure Proceeds (p : Plan) (at_ : Location) (runner : Runner σ) (d₀ : Disk) (s : σ)
    (t : Transcript σ) : Prop where
  /-- The first call finds the build directory, and finds it empty. -/
  opening : t.calls.head? = some ⟨d₀, p.configure⟩ ∧ d₀.ShowsEmpty at_ p.buildDir
  second_iff : t.invocations = [p.configure, p.build] ↔ p.GoesOn (p.firstReply runner d₀ s).answer
  /-- The second call, if there is one, finds what the first has left. -/
  second_disk : p.GoesOn (p.firstReply runner d₀ s).answer →
    t.calls[1]? = some ⟨(p.firstReply runner d₀ s).disk, p.build⟩
  first_fault : ∀ fault, (p.firstReply runner d₀ s).answer = .error fault →
    t.result = .error fault
  second_fault : ∀ fault, p.GoesOn (p.firstReply runner d₀ s).answer →
    (p.secondReply runner d₀ s).answer = .error fault → t.result = .error fault
  /-- A report with one outcome. -/
  skipped : ∀ o, (p.firstReply runner d₀ s).answer = .ok o →
    ¬ p.GoesOn (p.firstReply runner d₀ s).answer → t.result = .ok ⟨p.buildDir, o, none⟩
  /-- A report with two outcomes. -/
  finished : ∀ o build, (p.firstReply runner d₀ s).answer = .ok o →
    p.GoesOn (p.firstReply runner d₀ s).answer → (p.secondReply runner d₀ s).answer = .ok build →
    t.result = .ok ⟨p.buildDir, o, some build⟩

/-- The contract of a run on the disk `d`. -/
structure Orderly (p : Plan) (at_ : Location) (runner : Runner σ) (d : Disk) (s : σ)
    (t : Transcript σ) : Prop where
  sequence : t.invocations = [] ∨ t.invocations = [p.configure] ∨
    t.invocations = [p.configure, p.build]
  /-- Nothing is called exactly if the build directory could not be reset. -/
  silent_iff : t.invocations = [] ↔
    ∃ fault, (BuildDir.reset d at_ p.buildDir).2 = .error fault
  refused : ∀ fault, (BuildDir.reset d at_ p.buildDir).2 = .error fault →
    t.result = .error fault ∧ fault.isFilesystem = true
  proceeds : ∀ d₀, BuildDir.reset d at_ p.buildDir = (d₀, .ok ()) →
    p.Proceeds at_ runner d₀ s t

theorem not_goesOn_error (p : Plan) (fault : Fault) : ¬ p.GoesOn (.error fault) := by
  rintro ⟨o, h, -⟩
  cases h

theorem goesOn_ok_iff {p : Plan} {o : Outcome} :
    p.GoesOn (.ok o) ↔ o.isSuccess = true ∨ p.keepGoing = true := by
  constructor
  · rintro ⟨o', h, hgoes⟩
    rw [Except.ok.inj h]
    exact hgoes
  · exact fun hgoes => ⟨o, rfl, hgoes⟩

namespace Runs

variable {t : Transcript σ}

theorem sequence (h : Runs p at_ runner d s t) :
    t.invocations = [] ∨ t.invocations = [p.configure] ∨
      t.invocations = [p.configure, p.build] := by
  cases h with
  | refused => exact Or.inl rfl
  | unconfigured => exact Or.inr (Or.inl rfl)
  | skipped => exact Or.inr (Or.inl rfl)
  | built => exact Or.inr (Or.inr rfl)

theorem silent_iff (h : Runs p at_ runner d s t) :
    t.invocations = [] ↔ ∃ fault, (BuildDir.reset d at_ p.buildDir).2 = .error fault := by
  cases h with
  | refused hreset => simp [Transcript.invocations, hreset]
  | unconfigured hreset => simp [Transcript.invocations, hreset]
  | skipped hreset => simp [Transcript.invocations, hreset]
  | built hreset => simp [Transcript.invocations, hreset]

theorem refused_result (h : Runs p at_ runner d s t) {fault : Fault}
    (hfault : (BuildDir.reset d at_ p.buildDir).2 = .error fault) :
    t.result = .error fault ∧ fault.isFilesystem = true := by
  cases h with
  | refused hreset =>
      rw [hreset] at hfault
      obtain rfl := Except.error.inj hfault
      exact ⟨rfl, BuildDir.reset_error_isFilesystem hreset⟩
  | unconfigured hreset => simp [hreset] at hfault
  | skipped hreset => simp [hreset] at hfault
  | built hreset => simp [hreset] at hfault

/-- What follows a successful reset, by the answers of the two calls. -/
theorem proceeds (hd : d.IsTree) (h : Runs p at_ runner d s t) {d₀ : Disk}
    (hok : BuildDir.reset d at_ p.buildDir = (d₀, .ok ())) : p.Proceeds at_ runner d₀ s t := by
  -- the first call finds what the reset has left; the rest is read off the four ways
  have hempty := BuildDir.reset_leaves_empty hd hok
  cases h with
  | refused hreset => cases (Prod.mk.inj (hreset.symm.trans hok)).2
  | unconfigured hreset hfirst =>
      obtain rfl := (Prod.mk.inj (hreset.symm.trans hok)).1
      have hstop := not_goesOn_error p
      exact
        { opening := ⟨rfl, hempty⟩
          second_iff := by simp [Transcript.invocations, hfirst, hstop]
          second_disk := by simp [hfirst, hstop]
          first_fault := by simp [hfirst]
          second_fault := by simp [hfirst, hstop]
          skipped := by simp [hfirst]
          finished := by simp [hfirst] }
  | @skipped _ o hreset hfirst hfailed hkeep =>
      obtain rfl := (Prod.mk.inj (hreset.symm.trans hok)).1
      have hstop : ¬ p.GoesOn (.ok o) := by simp [goesOn_ok_iff, hfailed, hkeep]
      exact
        { opening := ⟨rfl, hempty⟩
          second_iff := by simp [Transcript.invocations, hfirst, hstop]
          second_disk := by simp [hfirst, hstop]
          first_fault := by simp [hfirst]
          second_fault := by simp [hfirst, hstop]
          skipped := by simp [hfirst]
          finished := by simp [hfirst, hstop] }
  | @built _ o hreset hfirst hgoes =>
      obtain rfl := (Prod.mk.inj (hreset.symm.trans hok)).1
      have hgo : p.GoesOn (.ok o) := goesOn_ok_iff.mpr hgoes
      exact
        { opening := ⟨rfl, hempty⟩
          second_iff := by simp [Transcript.invocations, hfirst, hgo]
          second_disk := by simp
          first_fault := by simp [hfirst]
          second_fault := by
            intro fault _ hsecond
            simp only [hsecond]
            rfl
          skipped := by simp [hfirst, hgo]
          finished := by
            intro o build ho _ hsecond
            obtain rfl := Except.ok.inj (hfirst.symm.trans ho)
            simp only [hsecond]
            rfl }

end Runs

/-- **A run is orderly**, on every tree, for every plan and every runner; and the calls it is orderly
in are the ones that the runner has received. -/
theorem execute_orderly {d : Disk} (hd : d.IsTree) (p : Plan) (at_ : Location)
    (runner : Runner σ) (s : σ) :
    p.Orderly at_ runner d s (p.execute at_ runner d s) ∧
      (p.execute at_ runner.logged d (s, [])).state.2 = (p.execute at_ runner d s).calls := by
  have hruns := execute_runs p at_ runner d s
  refine ⟨?_, ?_⟩
  · exact
      { sequence := hruns.sequence
        silent_iff := hruns.silent_iff
        refused := fun _ hfault => hruns.refused_result hfault
        proceeds := fun _ hok => hruns.proceeds hd hok }
  · rw [execute_logged]
    rfl

/-- A project whose build directory holds a file, and a configure tool that fails. -/
theorem execute_orderly_stale :
    let d : Disk := ⟨[([Utf8.ofString "p"], .directory),
      ([Utf8.ofString "p", Utf8.ofString "build"], .directory),
      ([Utf8.ofString "p", Utf8.ofString "build", Utf8.ofString "a.o"], .file [] false)], []⟩
    let p := Plan.make 4 (Path.ofString "/p") Config.standard
    let s := Recorder.ofScript [.outcome (.failed (some 1))]
    d.IsTree ∧ p.Orderly [] (Recorder.run []) d s (p.execute [] (Recorder.run []) d s) ∧
      (p.execute [] (Recorder.run []).logged d (s, [])).state.2 =
        (p.execute [] (Recorder.run []) d s).calls := by
  intro d p s
  have hd : d.IsTree := by decide
  exact ⟨hd, execute_orderly hd p [] (Recorder.run []) s⟩

end Plan

end FreshBuild
