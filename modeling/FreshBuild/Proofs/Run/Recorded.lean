/-
# FreshBuild.Proofs.Run.Recorded — what a recorder answers and what it writes down.

Whoever watches a run with a recorder concludes from the record to the run. That is sound if the
answers are those of the script, each in its place, and if every call is written down as it was made,
together with what stood in its working directory at that moment. `Faithful` is this promise.

A recorder serves one request after the other (`serve`). Every request brings its own disk and its own
current directory, so between two of them anything may have happened. One call takes one entry off the
script and puts one record behind the others; what a whole sequence does follows from that by induction
over the requests, for a recorder in any state (`serve_calls`, `serve_answers`).

The names that a record shows are described without the recorder (`Disk.Lists`). Two names that are no
text may look alike, and then they are shown twice.
-/
import FreshBuild.Proofs.BuildDir.Spelling
import FreshBuild.Proofs.Run.Sequence
import FreshBuild.Proofs.Text.ByteOrder

namespace FreshBuild

namespace Disk

variable {d : Disk} {at_ dir : Location} {p : Path} {texts texts' : List String}

/-! ## The names in a directory, as texts -/

/-- The texts show the names in the directory: one text for each of them, in the order of bytes. -/
structure Lists (d : Disk) (dir : Location) (texts : List String) : Prop where
  sorted : texts.Pairwise fun s t => Utf8.ofString s ≤ Utf8.ofString t
  complete : ∃ names : List Name, names.Nodup ∧
    (∀ name, name ∈ names ↔ ∃ e, d.get? (dir ++ [name]) = some e) ∧
      texts.Perm (names.map Utf8.lossy)

/-- A directory is shown in one way only. -/
theorem Lists.unique (h : d.Lists dir texts) (h' : d.Lists dir texts') : texts = texts' := by
  obtain ⟨names, hnodup, hnames, hperm⟩ := h.complete
  obtain ⟨names', hnodup', hnames', hperm'⟩ := h'.complete
  have hsame : names.Perm names' :=
    (List.perm_ext_iff_of_nodup hnodup hnodup').mpr fun name =>
      (hnames name).trans (hnames' name).symm
  -- names that look alike do no harm: texts of the same bytes are the same text
  refine List.Perm.eq_of_pairwise (fun s t _ _ hst hts => ?_) h.sorted h'.sorted
    (hperm.trans ((hsame.map _).trans hperm'.symm))
  exact String.le_antisymm (Utf8.ofString_le_iff.mp hst) (Utf8.ofString_le_iff.mp hts)

end Disk

namespace Recorder

variable {d : Disk} {at_ dir : Location} {p : Path}

/-- What is seen of a directory that can be entered. -/
theorem visibleNames_lists (hd : d.IsTree) (h : d.enter at_ p = .ok dir) :
    d.Lists dir (visibleNames d at_ p) := by
  unfold visibleNames
  rw [h]
  exact
    { sorted := (Utf8.pairwise_mergeSort_text (fun s => s) _).imp Utf8.ofString_le_iff.mpr
      complete := ⟨d.children dir, hd.nodup_children dir, fun _ => Disk.mem_children_iff,
        List.mergeSort_perm _ _⟩ }

theorem visibleNames_unreadable {cause : Cause} (h : d.enter at_ p = .error cause) :
    visibleNames d at_ p = [] := by
  rw [visibleNames, h]

/-! ## A sequence of calls -/

/-- A call as it reaches a recorder, with the disk and the current directory of that moment. -/
structure Request where
  at_ : Location
  disk : Disk
  invocation : Invocation

/-- What is to be written down of a call. -/
def Request.record (q : Request) : Record :=
  ⟨q.invocation, visibleNames q.disk q.at_ q.invocation.workdir⟩

/-- The recorder after a sequence of requests, and its answers to them. -/
def serve (r : Recorder) : List Request → Recorder × List (Except Fault Outcome)
  | [] => (r, [])
  | q :: rest =>
    let reply := run q.at_ q.disk r q.invocation
    let served := serve reply.state rest
    (served.1, reply.answer :: served.2)

/-- One call uses up one entry of the script and adds one record. -/
theorem serve_cons (r : Recorder) (q : Request) (rest : List Request) :
    r.serve (q :: rest) =
      ((serve ⟨r.script.tail, r.calls ++ [q.record]⟩ rest).1,
        answer q.invocation r.script.head? ::
          (serve ⟨r.script.tail, r.calls ++ [q.record]⟩ rest).2) := rfl

theorem length_serve (r : Recorder) (requests : List Request) :
    (r.serve requests).2.length = requests.length := by
  induction requests generalizing r with
  | nil => rfl
  | cons q rest ih => rw [serve_cons, List.length_cons, List.length_cons, ih]

theorem serve_script (r : Recorder) (requests : List Request) :
    (r.serve requests).1.script = r.script.drop requests.length := by
  induction requests generalizing r with
  | nil => rfl
  | cons q rest ih => rw [serve_cons, ih, List.length_cons, List.drop_tail]

/-- **All calls are written down**, in their order and behind those from before. -/
theorem serve_calls (r : Recorder) (requests : List Request) :
    (r.serve requests).1.calls = r.calls ++ requests.map Request.record := by
  induction requests generalizing r with
  | nil => exact (List.append_nil r.calls).symm
  | cons q rest ih =>
      rw [serve_cons, ih, List.map_cons, List.append_assoc, List.singleton_append]

/-- **Each call is answered from the entry of the script in its place.** -/
theorem serve_answers (r : Recorder) (requests : List Request) (k : Nat) :
    (r.serve requests).2[k]? = requests[k]?.map fun q => answer q.invocation r.script[k]? := by
  induction requests generalizing r k with
  | nil => rfl
  | cons q rest ih =>
      rw [serve_cons]
      cases k with
      | zero => rw [List.getElem?_cons_zero, List.getElem?_cons_zero, Option.map_some,
          List.head?_eq_getElem?]
      | succ k => rw [List.getElem?_cons_succ, List.getElem?_cons_succ, ih, List.getElem?_tail]

/-- There are two steps, and a call is for one of them. -/
theorem count_add_count (r : Recorder) :
    r.count .configure + r.count .build = r.calls.length := by
  rw [List.length_eq_countP_add_countP fun c : Record => decide (c.invocation.step = .configure)]
  refine congrArg (r.count .configure + ·) (List.countP_congr fun c _ => ?_)
  cases c.invocation.step <;> decide

/-! ## The promise of a recorder -/

/-- What can be relied on once a recorder with a fresh `script` has served `requests`, if it is `r` by
then and has given `answers`. -/
structure Faithful (script : List Scripted) (requests : List Request) (r : Recorder)
    (answers : List (Except Fault Outcome)) : Prop where
  answered : answers.length = requests.length
  outcome : ∀ (k : Nat) (o : Outcome), k < requests.length → script[k]? = some (.outcome o) →
    answers[k]? = some (.ok o)
  /-- The program that was not found is that of the call. -/
  notFound : ∀ (k : Nat) (q : Request), requests[k]? = some q → script[k]? = some .notFound →
    answers[k]? = some (.error (.toolNotFound q.invocation.step q.invocation.program))
  exhausted : ∀ k : Nat, k < requests.length → script.length ≤ k → answers[k]? = some (.ok .succeeded)
  unspent : r.script = script.drop requests.length
  /-- The calls stand in the record in their order, also those that were answered with a fault. -/
  logged : r.calls.map Record.invocation = requests.map Request.invocation
  /-- What has been written down after `n` calls is neither changed nor moved by those that follow. -/
  kept : ∀ n : Nat, ((ofScript script).serve (requests.take n)).1.calls = r.calls.take n
  /-- What a record shows is what stood in the working directory when the call was made. -/
  listed : ∀ (k : Nat) (q : Request) (c : Record) (dir : Location), requests[k]? = some q →
    r.calls[k]? = some c →
    q.disk.enter q.at_ q.invocation.workdir = .ok dir → q.disk.Lists dir c.entries
  unreadable : ∀ (k : Nat) (q : Request) (c : Record) (cause : Cause), requests[k]? = some q →
    r.calls[k]? = some c →
    q.disk.enter q.at_ q.invocation.workdir = .error cause → c.entries = []
  counted : r.count .configure + r.count .build = requests.length

/-- **A recorder keeps its promise**, for every script and for calls of any number on disks that change
in any way between them. -/
theorem serve_faithful (script : List Scripted) (requests : List Request)
    (htrees : ∀ q ∈ requests, q.disk.IsTree) :
    Faithful script requests ((ofScript script).serve requests).1
      ((ofScript script).serve requests).2 := by
  have hcalls : ((ofScript script).serve requests).1.calls = requests.map Request.record :=
    serve_calls (ofScript script) requests
  have hanswers : ∀ k : Nat, ((ofScript script).serve requests).2[k]? =
      requests[k]?.map fun q => answer q.invocation script[k]? :=
    serve_answers (ofScript script) requests
  have hrecord : ∀ (k : Nat) (q : Request) (c : Record), requests[k]? = some q →
      ((ofScript script).serve requests).1.calls[k]? = some c → c = q.record := by
    intro k q c hq hc
    rw [hcalls, List.getElem?_map, hq] at hc
    exact (Option.some.inj hc).symm
  exact
    { answered := length_serve (ofScript script) requests
      outcome := by
        intro k o hk hentry
        rw [hanswers, List.getElem?_eq_getElem hk, hentry]
        rfl
      notFound := by
        intro k q hq hentry
        rw [hanswers, hq, hentry]
        rfl
      exhausted := by
        intro k hk hend
        rw [hanswers, List.getElem?_eq_getElem hk, List.getElem?_eq_none hend]
        rfl
      unspent := serve_script (ofScript script) requests
      logged := by
        rw [hcalls, List.map_map]
        rfl
      kept := by
        intro n
        rw [hcalls, serve_calls, ← List.map_take]
        rfl
      listed := by
        intro k q c dir hq hc henter
        rw [hrecord k q c hq hc]
        exact visibleNames_lists (htrees q (List.mem_of_getElem? hq)) henter
      unreadable := by
        intro k q c cause hq hc henter
        rw [hrecord k q c hq hc]
        exact visibleNames_unreadable henter
      counted := by
        rw [count_add_count, hcalls, List.length_map] }

/-- Three calls in one directory. Before the second it is gone, and before the third it is back. -/
theorem serve_faithful_changing :
    let w := Utf8.ofString "w"
    let full : Disk := ⟨[([w], .directory), ([w, [0xFF]], .file [] false),
      ([w, Utf8.ofString "b"], .directory), ([w, [0xFE]], .file [] false),
      ([w, Utf8.ofString "a"], .link (Path.ofString "/gone"))], []⟩
    let configure : Invocation := ⟨.configure, "cmake", [], Path.ofString "/w", none⟩
    let build : Invocation := ⟨.build, "make", [], Path.ofString "/w", none⟩
    let requests : List Request := [⟨[], full, configure⟩, ⟨[], ⟨[], []⟩, build⟩, ⟨[w], full, build⟩]
    let script : List Scripted := [.outcome (.failed (some 2)), .notFound]
    let served := (ofScript script).serve requests
    (∀ q ∈ requests, q.disk.IsTree) ∧
      served.2[0]? = some (.ok (.failed (some 2))) ∧
      served.2[1]? = some (.error (.toolNotFound .build "make")) ∧
      served.2[2]? = some (.ok .succeeded) ∧
      served.1.calls.map Record.invocation = [configure, build, build] ∧
      served.1.calls.map Record.entries =
        [["a", "b", "\uFFFD", "\uFFFD"], [], ["a", "b", "\uFFFD", "\uFFFD"]] := by
  intro w full configure build requests script served
  have htrees : ∀ q ∈ requests, q.disk.IsTree := by decide
  have h := serve_faithful script requests htrees
  have hfull : full.IsTree := by decide
  have hlists : full.Lists [w] ["a", "b", "\uFFFD", "\uFFFD"] :=
    ⟨by decide, full.children [w], by decide, fun _ => Disk.mem_children_iff, by decide⟩
  have henter : ∀ at_, full.enter at_ (Path.ofString "/w") = .ok [w] :=
    hfull.enter_root (by decide) (by decide) (by decide)
  have hgone : Disk.enter ⟨[], []⟩ [] (Path.ofString "/w") = .error (.system .noEntry) := by
    have hempty : Disk.IsTree ⟨[], []⟩ := by decide
    have hnames : (Path.ofString "/w").names = [w] := by decide
    rw [hempty.enter_eq [] (by decide), Disk.request_eq (by decide), Disk.start,
      if_pos (by decide), hnames,
      Disk.walk_missing (by decide) (by decide) (by decide) (by decide)]
    rfl
  refine ⟨htrees, h.outcome 0 _ (by decide) rfl, h.notFound 1 _ rfl rfl,
    h.exhausted 2 (by decide) (by decide), h.logged, ?_⟩
  have hfirst := (h.listed 0 _ _ [w] rfl rfl (henter [])).unique hlists
  have hsecond := h.unreadable 1 _ _ _ rfl rfl hgone
  have hthird := (h.listed 2 _ _ [w] rfl rfl (henter [w])).unique hlists
  exact List.cons_eq_cons.mpr ⟨hfirst, List.cons_eq_cons.mpr ⟨hsecond,
    List.cons_eq_cons.mpr ⟨hthird, rfl⟩⟩⟩

end Recorder

/-- **A run is such a sequence of calls.** What it makes of a recorder is what serving the calls of its
transcript makes of it. -/
theorem Plan.execute_serves (p : Plan) (at_ : Location) (d : Disk) (r : Recorder) :
    (p.execute at_ (Recorder.run at_) d r).state =
      (r.serve ((p.execute at_ (Recorder.run at_) d r).calls.map fun c =>
        ⟨at_, c.disk, c.invocation⟩)).1 := by
  have hruns := Plan.execute_runs p at_ (Recorder.run at_) d r
  generalize p.execute at_ (Recorder.run at_) d r = t at hruns ⊢
  cases hruns with
  | refused | unconfigured | skipped | built => rfl

end FreshBuild
