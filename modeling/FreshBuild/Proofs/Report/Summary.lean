/-
# FreshBuild.Proofs.Report.Summary — what can be read off the line of a report.

The line shows the path of the build directory as it is, without quotes, in the middle of other
`key=value` pairs. A path may hold anything, also a text that looks like the rest of the line. The
line can be read even so, from its end: no outcome has an equals sign in its text, so the last sign
of the line stands before the outcome of the build step, and the last one before that stands before
the outcome of the configure step (`append_cons_cancel`). What is left over in front is the path,
whatever is in it.

`summary_eq_iff` says what a line tells of any report. Of a path that is no text it tells only what
is shown; of one that is text it tells everything (`summary_tells`).
-/
import FreshBuild.Proofs.Path.Trail
import FreshBuild.Proofs.Text.Numerals
import FreshBuild.Proofs.Text.Utf8
import FreshBuild.Report

namespace FreshBuild

/-! ## The last sign of a line -/

/-- Two lists that are equal are cut alike at the last place of an element: from behind, it is the
first. -/
theorem append_cons_cancel {α : Type} {sign : α} {a b c d : List α} (hb : sign ∉ b)
    (hd : sign ∉ d) (h : a ++ sign :: b = c ++ sign :: d) : a = c ∧ b = d := by
  have hreversed : b.reverse ++ sign :: a.reverse = d.reverse ++ sign :: c.reverse := by
    simpa using congrArg List.reverse h
  obtain ⟨hback, hfront⟩ := cut_unique (mt List.mem_reverse.mp hb) (startsAt_cons sign _)
    (mt List.mem_reverse.mp hd) (startsAt_cons sign _) hreversed
  exact ⟨List.reverse_inj.mp (List.cons.inj hfront).2, List.reverse_inj.mp hback⟩

/-! ## Outcomes -/

namespace Outcome

/-- The text of an outcome from its first character on. -/
theorem toList_text (o : Outcome) : o.text.toList = match o with
    | .succeeded => ['o', 'k']
    | .failed (some code) => 'e' :: "xit ".toList ++ (Digits.signedText code).toList
    | .failed none => 'k' :: "illed by signal".toList
    | .timedOut => 't' :: "imed out".toList := by
  rcases o with _ | (_ | code) | _
  · rfl
  · rfl
  · rw [text, String.toList_append]
    rfl
  · rfl

theorem equals_notMem_text (o : Outcome) : '=' ∉ o.text.toList := by
  rw [toList_text]
  rcases o with _ | (_ | code) | _
  · decide
  · decide
  · intro hmem
    rcases List.mem_append.mp hmem with hmem | hmem
    · exact absurd hmem (by decide)
    · rcases Digits.mem_signedText hmem with heq | hdigit
      · exact absurd heq (by decide)
      · exact absurd hdigit (by decide)
  · decide

/-- The texts of outcomes differ in their first character, or else in their code. -/
theorem text_injective : Function.Injective text := by
  intro o o' h
  have hchars := congrArg String.toList h
  rw [toList_text, toList_text] at hchars
  rcases o with _ | (_ | code) | _ <;> rcases o' with _ | (_ | code') | _ <;>
    first
    | rfl
    | exact absurd (List.cons.inj hchars).1 (by decide)
    | skip
  -- two failures with a code are left
  have hcode := String.toList_injective (List.append_cancel_left hchars)
  rw [Digits.signedText_injective hcode]

/-- What the line shows of the build step. -/
def shown (build : Option Outcome) : String :=
  build.elim "skipped" text

theorem equals_notMem_shown (build : Option Outcome) : '=' ∉ (shown build).toList := by
  cases build with
  | none => decide
  | some o => exact equals_notMem_text o

/-- No outcome is shown like a step that was skipped. -/
theorem text_ne_skipped (o : Outcome) : o.text ≠ "skipped" := by
  intro h
  have hchars := congrArg String.toList h
  rw [toList_text] at hchars
  rcases o with _ | (_ | code) | _ <;> exact absurd (List.cons.inj hchars).1 (by decide)

theorem shown_injective : Function.Injective shown := by
  intro build build' h
  cases build with
  | none =>
      cases build' with
      | none => rfl
      | some o' => exact absurd h.symm (text_ne_skipped o')
  | some o =>
      cases build' with
      | none => exact absurd h (text_ne_skipped o)
      | some o' => exact congrArg some (text_injective h)

end Outcome

/-! ## The line -/

namespace Report

/-- The line, with the signs that stand before the outcomes set apart. -/
theorem toList_summary (r : Report) : r.summary.toList =
    ("rebuild: build_dir=".toList ++ r.buildDir.display.toList ++ " configure".toList) ++
      '=' :: (r.configure.text.toList ++ " build".toList) ++
      '=' :: (Outcome.shown r.build).toList := by
  have hsummary : r.summary = "rebuild: build_dir=" ++ r.buildDir.display ++ " configure=" ++
      r.configure.text ++ " build=" ++ Outcome.shown r.build := by
    rcases r with ⟨buildDir, configure, _ | build⟩ <;> rfl
  -- the sign is the last character of the fixed text in front of an outcome
  have hconfigure : " configure=".toList = " configure".toList ++ ['='] := rfl
  have hbuild : " build=".toList = " build".toList ++ ['='] := rfl
  rw [hsummary]
  simp only [String.toList_append, hconfigure, hbuild, List.append_assoc, List.cons_append,
    List.nil_append]

/-- What two lines have in common: the path as it is shown, and how either step ended. -/
theorem summary_eq_iff {r r' : Report} : r.summary = r'.summary ↔
    r.buildDir.display = r'.buildDir.display ∧ r.configure = r'.configure ∧
      r.build = r'.build := by
  constructor
  · intro h
    have hchars := congrArg String.toList h
    rw [toList_summary, toList_summary] at hchars
    have hnoSign : ∀ o : Outcome, '=' ∉ o.text.toList ++ " build".toList := by
      intro o hmem
      rcases List.mem_append.mp hmem with hmem | hmem
      · exact o.equals_notMem_text hmem
      · exact absurd hmem (by decide)
    obtain ⟨hrest, hbuild⟩ := append_cons_cancel (Outcome.equals_notMem_shown r.build)
      (Outcome.equals_notMem_shown r'.build) hchars
    obtain ⟨hfront, hconfigure⟩ := append_cons_cancel (hnoSign _) (hnoSign _) hrest
    refine ⟨?_, ?_, ?_⟩
    · exact String.toList_injective
        (List.append_cancel_left (List.append_cancel_right hfront))
    · exact Outcome.text_injective (String.toList_injective (List.append_cancel_right hconfigure))
    · exact Outcome.shown_injective (String.toList_injective hbuild)
  · rintro ⟨hdisplay, hconfigure, hbuild⟩
    unfold summary
    rw [hdisplay, hconfigure, hbuild]

/-- **The line of a report tells the whole report**, where the build directory is text: the path
with every character of it, how either step ended with its code, and whether the build was
skipped. -/
theorem summary_tells {r r' : Report} (h : ∃ dir, r.buildDir.bytes = Utf8.encode dir)
    (h' : ∃ dir, r'.buildDir.bytes = Utf8.encode dir) : r.summary = r'.summary ↔ r = r' := by
  obtain ⟨dir, hdir⟩ := h
  obtain ⟨dir', hdir'⟩ := h'
  rw [summary_eq_iff]
  constructor
  · rintro ⟨hdisplay, hconfigure, hbuild⟩
    unfold Path.display at hdisplay
    rw [hdir, hdir', Utf8.lossy_encode, Utf8.lossy_encode, String.ofList_inj] at hdisplay
    have hbytes : r.buildDir.bytes = r'.buildDir.bytes := by rw [hdir, hdir', hdisplay]
    rcases r with ⟨⟨bytes⟩, configure, build⟩
    rcases r' with ⟨⟨bytes'⟩, configure', build'⟩
    obtain rfl : bytes = bytes' := hbytes
    obtain rfl : configure = configure' := hconfigure
    obtain rfl : build = build' := hbuild
    rfl
  · rintro rfl
    exact ⟨rfl, rfl, rfl⟩

/-- A build directory whose name looks like the rest of a line, next to one with the shorter name. -/
theorem summary_tells_lookalike :
    let plain : Report := ⟨Path.ofString "/b", .succeeded, some (.failed (some (-1)))⟩
    let longer : Report := ⟨Path.ofString "/b configure=ok build=exit -1", .succeeded, none⟩
    (∃ dir, plain.buildDir.bytes = Utf8.encode dir) ∧
      (∃ dir, longer.buildDir.bytes = Utf8.encode dir) ∧ plain.summary ≠ longer.summary := by
  intro plain longer
  have hplain : ∃ dir, plain.buildDir.bytes = Utf8.encode dir := ⟨"/b".toList, rfl⟩
  have hlonger : ∃ dir, longer.buildDir.bytes = Utf8.encode dir :=
    ⟨"/b configure=ok build=exit -1".toList, rfl⟩
  refine ⟨hplain, hlonger, fun h => ?_⟩
  have hsame : plain = longer := (summary_tells hplain hlonger).mp h
  exact absurd hsame (by decide)

end Report

end FreshBuild
