import HttpConsole.Console.Desk
import HttpConsole.Proofs.Console.SessionTrace

/-! How a session ends. Quitting saves the draft and tells the dispatcher to stop; losing both
sources does neither. -/

set_option autoImplicit false

namespace HttpConsole.Console

open HttpConsole.Storage (DraftFile FileTree)

namespace Session

variable {session : Session}

private theorem step_quit (running : session.ended = false) :
    session.step (.event .quit) =
      ({ session with
          tree := session.file.save session.tree session.state.draft.text
          ended := true },
        [.send .shutdown]) := by
  rw [← take_own_clipboard]
  exact take_quit running session.clipboard

/-- Only quitting touches the file, and only quitting stops the dispatcher. -/
private theorem step_of_running (running : session.ended = false) {input : Input}
    (stays : input ≠ .event .quit) : ∃ state effects,
    session.step input = ({ session with state := state }, effects) ∧
    Effect.send .shutdown ∉ effects := by
  let turn : Turn := { input := input, clipboard := session.clipboard }
  have staysNow : turn.isQuit = false := beq_false_of_ne stays
  obtain ⟨effects, taken, -, commands⟩ := take_of_running running staysNow
  refine ⟨_, effects, (session.take_own_clipboard input).symm.trans taken, fun stops => ?_⟩
  have stop : Exchange.Command.shutdown ∈ effects.filterMap Effect.command? :=
    List.mem_filterMap.mpr ⟨_, stops, rfl⟩
  rw [commands, List.mem_map] at stop
  obtain ⟨hit, -, impossible⟩ := stop
  cases impossible

end Session

namespace Source

variable {Content : Type}

theorem put_of_exhausted {source : Source Content} (exhausted : source.isExhausted = true)
    (content : Content) : source.put content = source := by
  simp only [isExhausted, Bool.and_eq_true, Bool.not_eq_true'] at exhausted
  rw [put, exhausted.2]
  rfl

theorem close_of_exhausted {source : Source Content} (exhausted : source.isExhausted = true) :
    source.close = source := by
  simp only [isExhausted, Bool.and_eq_true, Bool.not_eq_true'] at exhausted
  rw [close, ← exhausted.2]

theorem waiting_of_exhausted {source : Source Content} (exhausted : source.isExhausted = true) :
    source.waiting = [] := by
  simp only [isExhausted, Bool.and_eq_true] at exhausted
  exact List.isEmpty_iff.mp exhausted.1

end Source

namespace Desk

def isExhausted (desk : Desk) : Bool :=
  desk.events.isExhausted && desk.answers.isExhausted

/-- The input that the session takes when something happens. -/
def takenAt (desk : Desk) (stir : Stir) : List Input :=
  if desk.session.ended then []
  else
    match stir with
    | .takeEvent => desk.events.waiting.head?.toList.map .event
    | .takeAnswer => desk.answers.waiting.head?.toList.map .answer
    | _ => []

/-- The inputs that the session takes, oldest first. -/
def taken (desk : Desk) (stirs : List Stir) : List Input :=
  noted (fun desk stir => (desk.step stir).1) takenAt desk stirs

private theorem run_cons (desk : Desk) (stir : Stir) (rest : List Stir) :
    desk.run (stir :: rest) =
      (((desk.step stir).1.run rest).1,
        (desk.step stir).2 ++ ((desk.step stir).1.run rest).2) := rfl

theorem run_concat (desk : Desk) (earlier : List Stir) (stir : Stir) :
    desk.run (earlier ++ [stir]) =
      (((desk.run earlier).1.step stir).1,
        (desk.run earlier).2 ++ ((desk.run earlier).1.step stir).2) := by
  induction earlier generalizing desk with
  | nil =>
      rw [List.nil_append, run_cons]
      exact congrArg (Prod.mk _) (List.append_nil _)
  | cons first rest ih => rw [List.cons_append, run_cons, ih, run_cons, List.append_assoc]

private theorem run_eq_foldl (desk : Desk) (stirs : List Stir) :
    (desk.run stirs).1 = stirs.foldl (fun desk stir => (desk.step stir).1) desk := by
  induction stirs generalizing desk with
  | nil => rfl
  | cons first rest ih => exact ih _

theorem taken_concat (desk : Desk) (earlier : List Stir) (stir : Stir) :
    desk.taken (earlier ++ [stir]) =
      desk.taken earlier ++ (desk.run earlier).1.takenAt stir := by
  rw [run_eq_foldl]
  exact noted_concat ..

/-- The session takes one input; or it takes none, and then nothing happens to it but that it gives
up, or that its clipboard changes. -/
theorem step_cases (desk : Desk) (stir : Stir) :
    (∃ input, desk.session.ended = false ∧ desk.takenAt stir = [input] ∧
      (desk.step stir).1.session = (desk.session.step input).1 ∧
      (desk.step stir).2 = (desk.session.step input).2) ∨
    (desk.takenAt stir = [] ∧ (desk.step stir).2 = [] ∧
      (((desk.step stir).1.session = desk.session.close ∧ desk.isExhausted = true) ∨
        ∃ clipboard, (desk.step stir).1.session =
          { desk.session with clipboard := clipboard })) := by
  have nothing (quiet : desk.takenAt stir = []) (still : desk.step stir = (desk, [])) :
      desk.takenAt stir = [] ∧ (desk.step stir).2 = [] ∧
        (((desk.step stir).1.session = desk.session.close ∧ desk.isExhausted = true) ∨
          ∃ clipboard, (desk.step stir).1.session =
            { desk.session with clipboard := clipboard }) := by
    rw [still]
    exact ⟨quiet, rfl, .inr ⟨desk.session.clipboard, rfl⟩⟩
  cases stir with
  | takeEvent =>
      cases ended : desk.session.ended with
      | true => exact .inr (nothing (by simp [takenAt, ended]) (by simp [step, ended]))
      | false =>
          cases waiting : desk.events.waiting with
          | nil =>
              exact .inr (nothing (by simp [takenAt, waiting]) (by simp [step, waiting]))
          | cons event rest =>
              exact .inl ⟨.event event, rfl, by simp [takenAt, ended, waiting],
                by simp [step, take, ended, waiting], by simp [step, take, ended, waiting]⟩
  | takeAnswer =>
      cases ended : desk.session.ended with
      | true => exact .inr (nothing (by simp [takenAt, ended]) (by simp [step, ended]))
      | false =>
          cases waiting : desk.answers.waiting with
          | nil =>
              exact .inr (nothing (by simp [takenAt, waiting]) (by simp [step, waiting]))
          | cons answer rest =>
              exact .inl ⟨.answer answer, rfl, by simp [takenAt, ended, waiting],
                by simp [step, take, ended, waiting], by simp [step, take, ended, waiting]⟩
  | giveUp =>
      have quiet : desk.takenAt .giveUp = [] := ite_self _
      by_cases exhausted : desk.isExhausted = true
      · have gone : desk.step .giveUp = ({ desk with session := desk.session.close }, []) :=
          if_pos exhausted
        rw [gone]
        exact .inr ⟨quiet, rfl, .inl ⟨rfl, exhausted⟩⟩
      · exact .inr (nothing quiet (if_neg exhausted))
  | changeClipboard clipboard => exact .inr ⟨ite_self _, rfl, .inr ⟨clipboard, rfl⟩⟩
  | putEvent event => exact .inr ⟨ite_self _, rfl, .inr ⟨desk.session.clipboard, rfl⟩⟩
  | putAnswer answer => exact .inr ⟨ite_self _, rfl, .inr ⟨desk.session.clipboard, rfl⟩⟩
  | closeEvents => exact .inr ⟨ite_self _, rfl, .inr ⟨desk.session.clipboard, rfl⟩⟩
  | closeAnswers => exact .inr ⟨ite_self _, rfl, .inr ⟨desk.session.clipboard, rfl⟩⟩

/-- Exhausted sources stay so. -/
theorem isExhausted_step {desk : Desk} (exhausted : desk.isExhausted = true) (stir : Stir) :
    (desk.step stir).1.isExhausted = true := by
  obtain ⟨noEvents, noAnswers⟩ := (Bool.and_eq_true ..).mp exhausted
  cases stir with
  | putEvent event =>
      simpa only [step, Source.put_of_exhausted noEvents] using exhausted
  | putAnswer answer =>
      simpa only [step, Source.put_of_exhausted noAnswers] using exhausted
  | closeEvents => simpa only [step, Source.close_of_exhausted noEvents] using exhausted
  | closeAnswers => simpa only [step, Source.close_of_exhausted noAnswers] using exhausted
  | changeClipboard clipboard => exact exhausted
  | takeEvent => simpa [step, Source.waiting_of_exhausted noEvents] using exhausted
  | takeAnswer => simpa [step, Source.waiting_of_exhausted noAnswers] using exhausted
  | giveUp =>
      have gone : desk.step .giveUp = ({ desk with session := desk.session.close }, []) :=
        if_pos exhausted
      rw [gone]
      exact exhausted

end Desk

/-- What a session that began as `start` has done with the draft when it has taken some inputs. -/
structure Kept (start : Session) (desk : Desk) (inputs : List Input) (effects : List Effect) :
    Prop where
  file : desk.session.file = start.file
  saved : .event .quit ∈ inputs → desk.session.ended = true ∧
    desk.session.tree = start.file.save start.tree desk.session.state.draft.text ∧
    effects.getLast? = some (.send .shutdown)
  unsaved : .event .quit ∉ inputs → desk.session.tree = start.tree ∧
    Effect.send .shutdown ∉ effects ∧
    (desk.session.ended = true → desk.isExhausted = true)

namespace Kept

variable {start : Session} {desk : Desk} {inputs : List Input} {effects : List Effect}

/-- An input is taken only before quitting. -/
private theorem take (kept : Kept start desk inputs effects) (running : desk.session.ended = false)
    {stir : Stir} {input : Input}
    (session : (desk.step stir).1.session = (desk.session.step input).1) :
    Kept start (desk.step stir).1 (inputs ++ [input])
      (effects ++ (desk.session.step input).2) := by
  have before : .event .quit ∉ inputs := fun quit => by
    rw [(kept.saved quit).1] at running
    cases running
  obtain ⟨tree, unstopped, -⟩ := kept.unsaved before
  by_cases quits : input = .event .quit
  · subst quits
    rw [Session.step_quit running] at session ⊢
    constructor
    case file => rw [session, ← kept.file]
    case saved =>
      intro _
      rw [session, ← kept.file, ← tree]
      exact ⟨rfl, rfl, List.getLast?_concat⟩
    case unsaved => exact fun absent => absurd (List.mem_append_right _ List.mem_cons_self) absent
  · obtain ⟨state, now, stepped, unstoppedNow⟩ := Session.step_of_running running quits
    rw [stepped] at session ⊢
    have still : .event .quit ∉ inputs ++ [input] := by
      rw [List.mem_append, List.mem_singleton, not_or]
      exact ⟨before, fun same => quits same.symm⟩
    constructor
    case file => rw [session, ← kept.file]
    case saved => exact fun quit => absurd quit still
    case unsaved =>
      intro _
      refine ⟨by rw [session, ← tree], ?_, fun ended => ?_⟩
      · rw [List.mem_append, not_or]
        exact ⟨unstopped, unstoppedNow⟩
      · rw [session] at ended
        exact absurd (running.symm.trans ended) Bool.false_ne_true

theorem step (kept : Kept start desk inputs effects) (stir : Stir) :
    Kept start (desk.step stir).1 (inputs ++ desk.takenAt stir)
      (effects ++ (desk.step stir).2) := by
  rcases desk.step_cases stir with
    ⟨input, running, taken, session, seen⟩ |
    ⟨taken, seen, ⟨session, exhausted⟩ | ⟨clipboard, session⟩⟩
  · rw [taken, seen]
    exact kept.take running session
  · rw [taken, seen, List.append_nil, List.append_nil]
    constructor
    case file => rw [session, ← kept.file]; rfl
    case saved =>
      intro quit
      rw [session]
      exact ⟨rfl, (kept.saved quit).2⟩
    case unsaved =>
      intro absent
      obtain ⟨tree, unstopped, -⟩ := kept.unsaved absent
      rw [session]
      exact ⟨tree, unstopped, fun _ => desk.isExhausted_step exhausted stir⟩
  · rw [taken, seen, List.append_nil, List.append_nil]
    constructor
    case file => rw [session, ← kept.file]
    case saved =>
      intro quit
      rw [session]
      exact kept.saved quit
    case unsaved =>
      intro absent
      obtain ⟨tree, unstopped, exhausted⟩ := kept.unsaved absent
      rw [session]
      exact ⟨tree, unstopped, fun ended => Desk.isExhausted_step (exhausted ended) stir⟩

theorem run (session : Session) (running : session.ended = false) (stirs : List Stir) :
    Kept session (({ session := session } : Desk).run stirs).1
      (({ session := session } : Desk).taken stirs)
      (({ session := session } : Desk).run stirs).2 := by
  induction stirs using List.reverseRecOn with
  | nil =>
      exact {
        file := rfl
        saved := fun quit => absurd quit List.not_mem_nil
        unsaved := fun _ => ⟨rfl, List.not_mem_nil, fun ended =>
          absurd (running.symm.trans ended) Bool.false_ne_true⟩ }
  | append_singleton earlier stir ih =>
      rw [Desk.run_concat, Desk.taken_concat]
      exact ih.step stir

end Kept

/-- Whatever reaches a session and whenever its sources are closed: if it has taken a quit, it has
ended, the draft is saved and stopping the dispatcher was the last thing it did. If it has not, the
file is as it was and the dispatcher was not told to stop, also when the session has ended. It ends
so only if both sources are closed and nothing is left in them. -/
theorem draft_saved_by_quit_only (state : State) (clipboard : Clipboard) (file : DraftFile)
    (tree : FileTree) (stirs : List Stir) :
    let start : Desk :=
      { session := { state := state, clipboard := clipboard, file := file, tree := tree } }
    let last := (start.run stirs).1
    let effects := (start.run stirs).2
    (.event .quit ∈ start.taken stirs → last.session.ended = true ∧
      last.session.tree = file.save tree last.session.state.draft.text ∧
      effects.getLast? = some (.send .shutdown)) ∧
    (.event .quit ∉ start.taken stirs → last.session.tree = tree ∧
      Effect.send .shutdown ∉ effects ∧
      (last.session.ended = true → last.events.isExhausted = true ∧
        last.answers.isExhausted = true)) := by
  intro start last effects
  have kept : Kept start.session last (start.taken stirs) effects := Kept.run _ rfl stirs
  refine ⟨kept.saved, fun absent => ?_⟩
  obtain ⟨unchanged, unstopped, exhausted⟩ := kept.unsaved absent
  exact ⟨unchanged, unstopped, fun ended => (Bool.and_eq_true ..).mp (exhausted ended)⟩

/-- A draft is edited, then both sources are closed: the session ends, the file could be written but
is not, and the dispatcher is not told to stop. -/
theorem draft_lost_with_sources :
    let file : DraftFile := { base := "/home/me", path := "draft" }
    let tree : FileTree := { nodes := [(["draft"], .file [0x78])] }
    let start : Desk := { session := .ofFile file tree .working }
    let last := (start.run [.putEvent (.enterChar 'y'), .closeAnswers, .closeEvents, .takeEvent,
      .giveUp]).1
    let effects := (start.run [.putEvent (.enterChar 'y'), .closeAnswers, .closeEvents, .takeEvent,
      .giveUp]).2
    last.session.ended = true ∧ last.session.state.draft.text = "xy" ∧
      last.session.tree = tree ∧ file.load last.session.tree = "x" ∧
      file.load (file.save tree "xy") = "xy" ∧ Effect.send .shutdown ∉ effects := by
  decide +kernel

end HttpConsole.Console
