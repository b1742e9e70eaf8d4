import PppManager.Manager.Blind
import PppManager.Manager.Outside

/-!
# Reads of the data model and starts

A run of the manager with reads of the data model inserted into it, and the run without them.  The
commands the starts of the two runs pass to `system` are the same where every start that configures
its client finds that a read has filled in `LCPEcho` and `LCPEchoRetry` of the entry
(`commands_blind`).
-/

namespace PppManager

open Effect Effect.Program CText DmlPppIfFull

/-! ### What a read changes -/

/-- What a read of the data model may leave of the entry `e`. -/
structure ReadFrom (e e' : DmlPppIfFull) : Prop where
  same : ∃ v, e' = e.withReadInfo v
  echo : e'.echo = e.echo ∨ e'.Filled

theorem readFrom_self (e : DmlPppIfFull) :
  ReadFrom e e
  := ⟨⟨⟨_, _, _, _, _⟩, rfl⟩, .inl rfl⟩

/-- The session id the content of a file shows for a link type. -/
def shownSessionId : PppDmlLinkType → CStr → Option CStr → Option ULong
  | .pppoe, path, some text =>
    if path = "/proc/net/pppoe".toList then pppoeSessionId (fgets 1023 text) else none
  | .pppoa, path, some text =>
    if path = "/var/log/messages".toList then pppoaSessionId (fgets 1023 text) else none
  | _, _, _ => none

/-- The session table shows the id that the entry `e` has, if it shows one. -/
def ShowsSession (e : DmlPppIfFull) : (o : Op) → o.Ans → Prop
  | .readFile path, r => ∀ id, shownSessionId e.cfg.linkType path r = some id → id = e.info.sessionID
  | _, _ => True

section

variable {t : Thread} {A : (o : Op) → o.Ans → Prop} {F : Prop} {I : DmlPppIfFull → Prop} {i : ℕ}
  {b : Build} {e : DmlPppIfFull} {α : Type}

theorem loadsEntry_load_bind {f : DmlPppIfFull → Code α} (hf : ∀ e, I e → LoadsEntry t A F I i (f e)) :
  LoadsEntry t A F I i (load i >>= f)
  := by
  intro s hs
  rw [Contract.wp_bind, wp_load]
  intro _
  apply hf _ hs s hs

theorem loadsEntry_queries {p : Code α} (hp : Only Op.IsQuery p) :
  LoadsEntry t A F I i p
  := by
  intro s hs
  apply wp_of_queries hp
  intro a
  use s.table i, hs
  rw [Sys.setEntry_self _ _ rfl]

/-- A program between taking the mutex of the entry and giving it back. -/
theorem loadsEntry_bracket {p : Code α} (hp : LoadsEntry t A F I i p) :
  LoadsEntry t A F I i (do lock i; let r ← p; unlock i; pure r)
  := by
  intro s hs
  apply wp_bracket
  apply Contract.wp_mono _ (hp (s.setLock i (t :: s.locks i)) hs)
  rintro a _ ⟨e, he, rfl⟩
  use s.setEntry i e, rfl, rfl, e, he

theorem loadsEntry_map {β : Type} {p : Code α} {f : α → β} (hp : LoadsEntry t A F I i p) :
  LoadsEntry t A F I i (f <$> p)
  := hp.bind fun _ => loadsEntry_pure _

/-- `get_session_id` finds the id that the entry has, if it finds one. -/
theorem wp_findSessionId {s : Sys} (hs : ReadFrom e (s.table i)) :
  (contract t (ShowsSession e) F).wp (findSessionId i)
    (fun r s' => s' = s ∧ ∀ id ∈ r, id = (s.table i).info.sessionID) s
  := by
  obtain ⟨v, hv⟩ := hs.same
  have hnone : s = s ∧ ∀ id ∈ (none : Option ULong), id = (s.table i).info.sessionID := by
    use rfl
    intro id hid
    cases hid
  rw [findSessionId, Contract.wp_bind, wp_load]
  intro _
  cases hlink : (s.table i).cfg.linkType with
  | unset | other => apply hnone
  | pppoe =>
      rw [Contract.wp_bind, wp_readFile]
      rintro (_ | text) hr
      · apply hnone
      · use rfl
        intro id hid
        rw [hv] at hlink ⊢
        apply hr id
        rw [hlink]
        apply hid
  | pppoa =>
      dsimp only
      rw [Contract.wp_bind]
      apply wp_of_queries reads_getPppIpAddr
      intro addr
      split_ifs
      · apply hnone
      · rw [Contract.wp_bind, wp_readFile]
        rintro (_ | text) hr
        · apply hnone
        · use rfl
          intro id hid
          rw [hv] at hlink ⊢
          apply hr id
          rw [hlink]
          apply hid

/-- The session id a read stores is the one the entry has. -/
theorem loadsEntry_getSessionId :
  LoadsEntry t (ShowsSession e) F (ReadFrom e) i (getSessionId i)
  := by
  intro s hs
  rw [getSessionId, Contract.wp_bind]
  apply Contract.wp_mono _ (wp_findSessionId hs)
  rintro (_ | id) s₁ ⟨rfl, hid⟩
  · use s₁.table i, hs
    rw [Sys.setEntry_self _ _ rfl]
  · obtain rfl := hid id rfl
    rw [wp_store]
    intro _
    exact ⟨_, hs, rfl⟩

theorem loadsEntry_pppDmlGetIfInfo :
  LoadsEntry t (ShowsSession e) F (ReadFrom e) i (pppDmlGetIfInfo i)
  := by
  apply LoadsEntry.bind
  · apply loadsEntry_store
    intro e' h
    obtain ⟨v, rfl⟩ := h.same
    exact ⟨⟨⟨.none, .none, v.currentMRUSize, 30, 3⟩, rfl⟩, .inr rfl⟩
  · intro _
    apply loadsEntry_getSessionId

theorem loadsEntry_copyMRUSize :
  LoadsEntry t A F (ReadFrom e) i (store i DmlPppIfFull.copyMRUSize)
  := by
  apply loadsEntry_store
  intro e' h
  obtain ⟨v, rfl⟩ := h.same
  exact ⟨⟨{ v with currentMRUSize := e.cfg.maxMRUSize }, rfl⟩, h.echo⟩

theorem loadsEntry_readUlongParam (paramName : CStr) :
  LoadsEntry t (ShowsSession e) F (ReadFrom e) i (readUlongParam b i paramName)
  := by
  apply loadsEntry_load_bind
  intro e' _
  split_ifs
  · apply LoadsEntry.bind loadsEntry_pppDmlGetIfInfo
    intro _
    apply loadsEntry_load_bind
    intro e' _
    apply LoadsEntry.bind (loadsEntry_queries reads_getUptimeinSeconds)
    intro uptime
    apply loadsEntry_pure
  · apply LoadsEntry.bind loadsEntry_pppDmlGetIfInfo
    intro _
    apply LoadsEntry.bind loadsEntry_copyMRUSize
    intro _
    apply loadsEntry_load_bind
    intro e' _
    apply loadsEntry_pure
  · apply LoadsEntry.bind loadsEntry_pppDmlGetIfInfo
    intro _
    apply loadsEntry_load_bind
    intro e' _
    apply loadsEntry_pure
  · apply loadsEntry_pure

theorem loadsEntry_readStringParam (paramName : CStr) :
  LoadsEntry t (ShowsSession e) F (ReadFrom e) i (readStringParam i paramName)
  := by
  apply loadsEntry_load_bind
  intro e' _
  split_ifs
  · apply loadsEntry_pure
  · apply LoadsEntry.bind loadsEntry_pppDmlGetIfInfo
    intro _
    apply loadsEntry_load_bind
    intro e' _
    apply loadsEntry_pure
  · apply loadsEntry_pure
  · apply loadsEntry_pure
  · apply loadsEntry_pure
  · apply loadsEntry_pure

theorem loadsEntry_sprintfNoArgs (format : CStr) :
  LoadsEntry t A F I i (sprintfNoArgs format)
  := by
  intro s hs
  rw [sprintfNoArgs]
  split_ifs
  · apply loadsEntry_pure _ s hs
  · apply wp_undefined

theorem loadsEntry_readIpv6cpStringParam (paramName : CStr) :
  LoadsEntry t (ShowsSession e) F (ReadFrom e) i (readIpv6cpStringParam i paramName)
  := by
  apply LoadsEntry.bind loadsEntry_pppDmlGetIfInfo
  intro _
  apply loadsEntry_load_bind
  intro e' _
  split_ifs
  · apply (loadsEntry_sprintfNoArgs _).bind
    intro _
    apply loadsEntry_pure
  · apply (loadsEntry_sprintfNoArgs _).bind
    intro _
    apply loadsEntry_pure
  · apply loadsEntry_pure

/-- A getter that looks at the entry only. -/
theorem loadsEntry_look (f : DmlPppIfFull → α) :
  LoadsEntry t A F I i (do lock i; let e ← load i; unlock i; pure (f e))
  := by
  intro s hs
  rw [Contract.wp_bind, wp_lock]
  intro _ _
  rw [Contract.wp_bind, wp_load]
  intro _
  rw [Contract.wp_bind]
  apply wp_getIfaceDataRelease (l := s.locks i)
  · simp
  · rw [Sys.setLock_setLock, Sys.setLock_self _ _ rfl]
    apply loadsEntry_pure _ s hs

theorem loadsEntry_pppoeGetParamUlongValue (paramName : CStr) :
  LoadsEntry t (ShowsSession e) F (ReadFrom e) i (pppoeGetParamUlongValue i paramName)
  := by
  have heq : pppoeGetParamUlongValue i paramName = (do
      lock i
      let r ← (if paramName = "SessionID".toList then do
          pppDmlGetIfInfo i
          let pEntry ← load i
          pure (some pEntry.info.sessionID)
        else pure none)
      unlock i
      pure r) := by
    rw [pppoeGetParamUlongValue]
    congr 1
    funext _
    split_ifs
    · simp only [LawfulMonad.bind_assoc, pure_bind]
    · rfl
  rw [heq]
  apply loadsEntry_bracket
  split_ifs
  · apply LoadsEntry.bind loadsEntry_pppDmlGetIfInfo
    intro _
    apply loadsEntry_load_bind
    intro e' _
    apply loadsEntry_pure
  · apply loadsEntry_pure

theorem loadsEntry_ipcpGetParamStringValue (paramName : CStr) :
  LoadsEntry t (ShowsSession e) F (ReadFrom e) i (ipcpGetParamStringValue i paramName)
  := by
  have heq : ipcpGetParamStringValue i paramName = (do
      lock i
      let r ← (do
        pppDmlGetIfInfo i
        let pEntry ← load i
        pure (ipcpStringParam paramName pEntry))
      unlock i
      pure r) := by
    rw [ipcpGetParamStringValue]
    simp only [LawfulMonad.bind_assoc, pure_bind]
  rw [heq]
  apply loadsEntry_bracket
  apply LoadsEntry.bind loadsEntry_pppDmlGetIfInfo
  intro _
  apply loadsEntry_load_bind
  intro e' _
  apply loadsEntry_pure

theorem loadsEntry_statsGetParamUlongValue (paramName : CStr) :
  LoadsEntry t A F I i (statsGetParamUlongValue i paramName)
  := by
  rw [statsGetParamUlongValue]
  apply LoadsEntry.bind
  · apply loadsEntry_load_bind
    intro e' _
    split_ifs
    · apply loadsEntry_queries
      apply only_bind (reads_op trivial)
      rintro (_ | text) <;> apply only_pure
    · intro s hs
      apply wp_undefined
  · intro stats s hs
    rw [Contract.wp_bind, wp_lock]
    intro _ _
    rw [Contract.wp_bind]
    apply wp_getIfaceDataRelease (l := s.locks i)
    · simp
    · rw [Sys.setLock_setLock, Sys.setLock_self _ _ rfl]
      apply loadsEntry_pure _ s hs

/-- A getter only changes the fields that reads fill in. -/
theorem loadsEntry_getter (g : Getter) :
  LoadsEntry t (ShowsSession e) F (ReadFrom e) g.handle (g.code b)
  := by
  cases g with
  | interfaceBool i paramName | pppoeString i paramName | ipcpBool i paramName =>
      apply loadsEntry_map (loadsEntry_look _)
  | interfaceUlong i paramName =>
      apply loadsEntry_map (loadsEntry_bracket (loadsEntry_readUlongParam paramName))
  | interfaceString i paramName =>
      apply loadsEntry_map (loadsEntry_bracket (loadsEntry_readStringParam paramName))
  | ipv6cpString i paramName =>
      apply loadsEntry_map (loadsEntry_bracket (loadsEntry_readIpv6cpStringParam paramName))
  | pppoeUlong i paramName => apply loadsEntry_map (loadsEntry_pppoeGetParamUlongValue paramName)
  | ipcpString i paramName => apply loadsEntry_map (loadsEntry_ipcpGetParamStringValue paramName)
  | statsUlong i paramName => apply loadsEntry_map (loadsEntry_statsGetParamUlongValue paramName)

end

/-! ### Runs with inserted reads -/

/-- The manager, with the commands the starts have passed to `system`. -/
structure Starting where
  sys : Sys
  commands : List CStr

/-- The entry point may start a client. -/
def EntryPoint.mayStart : EntryPoint → Bool
  | .takeEvent => true
  | .event _ => true
  | .start _ => true
  | _ => false

/-- The commands of the acts that a call has added. -/
def commandsSince (s s' : Sys) : List CStr :=
  (s'.acts.drop s.acts.length).filterMap fun a =>
    match a with
    | .system command => some command
    | _ => none

/-- The state after an entry point is called, with the commands of the starts. -/
def Access.nextStarting (b : Build) (l : Access) (σ : Starting) : Option Starting :=
  (l.next b σ.sys).map fun s' =>
    ⟨s', σ.commands ++ if l.point.mayStart then commandsSince σ.sys s' else []⟩

/-- A call of the run without the inserted reads, or an inserted read. -/
inductive Interleaved where
  | own (l : Access)
  | inserted (g : Getter) (answers : Answers)

namespace Interleaved

/-- What is called. -/
def access : Interleaved → Access
  | .own l => l
  | .inserted g answers => ⟨.getter g, answers⟩

/-- The state after a call or an inserted read. -/
def next (b : Build) (l : Interleaved) (σ : Starting) : Option Starting :=
  l.access.nextStarting b σ

/-- The calls of the run without the inserted reads. -/
def own? : Interleaved → Option Access
  | .own l => some l
  | .inserted _ _ => none

/-- An inserted read that finds an id in the session table finds the one that the entry has. -/
def Shows (l : Interleaved) (σ : Starting) : Prop :=
  match l with
  | .own _ => True
  | .inserted g answers =>
    Access.Allowed (ShowsSession (σ.sys.table g.handle)) ⟨.getter g, answers⟩

/-- The calls of a run and the inserted reads find the same files, the session table among them. -/
def SameFiles (ls : List Interleaved) : Prop :=
  ∃ file : CStr → Option CStr, ∀ l ∈ ls, ∀ k path, l.access.answers k (.readFile path) = file path

end Interleaved

/-- The call configures no client, or the one of an entry in which a read has filled in `LCPEcho` and
`LCPEchoRetry`. -/
def ConfiguresFilled (b : Build) (l : Access) (σ : Starting) : Prop :=
  ∀ n ∈ l.point.starts σ.sys, (σ.sys.table (n - 1)).Filled ∨
    ¬ (machine l.point.thread).Performs l.answers (fun o _ => o.IsConfig) (l.point.code b) 0 σ.sys

/-- The runs are alike: their states are, and their starts have passed the same commands to
`system`. -/
structure StartAlike (σ σ' : Starting) : Prop where
  sys : Alike (fun i => (σ.sys.table i).Filled) σ.sys σ'.sys
  commands : σ'.commands = σ.commands

section

variable {b : Build} {σ σ' σ₁ : Starting}

/-- A state that differs in what reads fill in only. -/
theorem Alike.filled {F : ℕ → Prop} {s s' : Sys} (h : Alike F s s') :
  Alike (fun i => (s.table i).Filled) s s'
  where
    entry := by
      intro i
      exact ⟨(h.entry i).same, (h.entry i).echo, (h.entry i).echo', id⟩
    locks := h.locks
    queue := h.queue
    psm := h.psm
    acts := h.acts

/-- An inserted read keeps the runs alike. -/
theorem StartAlike.inserted (h : StartAlike σ σ') {g : Getter} {answers : Answers}
    (hshows : (Interleaved.inserted g answers).Shows σ')
    (hnext : (Interleaved.inserted g answers).next b σ' = some σ₁) :
  StartAlike σ σ₁
  := by
  obtain ⟨s₁, hs₁, rfl⟩ := Option.map_eq_some_iff.mp hnext
  have hwp := loadsEntry_getter (t := .dataModel) (F := True) (b := b) g σ'.sys
    (readFrom_self (σ'.sys.table g.handle))
  obtain ⟨e, he, rfl⟩ := Access.next_ends hshows hwp hs₁
  constructor
  · constructor
    · intro i
      rw [Sys.setEntry_table]
      by_cases hi : i = g.handle
      · obtain rfl := hi
        rw [Function.update_self]
        have hentry := h.sys.entry g.handle
        obtain ⟨v, hv⟩ := hentry.same
        obtain ⟨v', rfl⟩ := he.same
        constructor
        · use v'
          rw [hv]
        · apply hentry.echo
        · rcases he.echo with hecho | hfilled
          · rw [Filled, hecho]
            apply hentry.echo'
          · apply Or.inr hfilled
        · apply hentry.filled
      · rw [Function.update_of_ne hi]
        apply h.sys.entry
    · apply h.sys.locks
    · apply h.sys.queue
    · apply h.sys.psm
    · apply h.sys.acts
  · show σ'.commands ++ [] = σ.commands
    rw [List.append_nil, h.commands]

/-- A call of both runs keeps them alike. -/
theorem StartAlike.own (h : StartAlike σ σ') {l : Access} (hconf : ConfiguresFilled b l σ)
    (hnext : l.nextStarting b σ' = some σ₁) :
  ∃ σ₂, l.nextStarting b σ = some σ₂ ∧ StartAlike σ₂ σ₁
  := by
  obtain ⟨s₁, hs₁, rfl⟩ := Option.map_eq_some_iff.mp hnext
  have hnot : ¬ (machine l.point.thread).Performs l.answers
      (fun o _ => o.IsConfig ∧ ∃ n ∈ l.point.starts σ.sys, ¬ (σ.sys.table (n - 1)).Filled)
      (l.point.code b) 0 σ.sys := by
    intro hperforms
    obtain ⟨o, s, -, n, hn, hunfilled⟩ := hperforms.exists
    apply (hconf n hn).resolve_left hunfilled
    apply hperforms.mono
    intro o s ho
    apply ho.1
  have hends := endAlike_code h.sys (fun n hn hfilled o ho => ⟨ho, n, hn, hfilled⟩) hnot
  rw [Access.next] at hs₁
  generalize (machine l.point.thread).exec l.answers (l.point.code b) 0 σ'.sys = q' at hends hs₁
  generalize hq : (machine l.point.thread).exec l.answers (l.point.code b) 0 σ.sys = q at hends
  cases hends with
  | error e => cases hs₁
  | @ok r r' hr =>
      obtain rfl := Option.some.inj hs₁
      use ⟨r.2.1, σ.commands ++ if l.point.mayStart then commandsSince σ.sys r.2.1 else []⟩
      constructor
      · rw [Access.nextStarting, Access.next, hq]
        rfl
      · constructor
        · apply hr.2.1.filled
        · rw [h.commands, commandsSince, commandsSince, hr.2.1.acts, h.sys.acts]

/-- Runs from states alike end in states alike. -/
theorem StartAlike.run (h : StartAlike σ σ') {ls : List Interleaved}
    (hshows : Throughout (Interleaved.next b) Interleaved.Shows ls σ')
    (hconf : Throughout (Access.nextStarting b) (ConfiguresFilled b)
      (ls.filterMap Interleaved.own?) σ)
    (hrun : Effect.run (Interleaved.next b) ls σ' = some σ₁) :
  ∃ σ₂, Effect.run (Access.nextStarting b) (ls.filterMap Interleaved.own?) σ = some σ₂ ∧
    StartAlike σ₂ σ₁
  := by
  induction ls generalizing σ σ' with
  | nil =>
      obtain rfl := Option.some.inj hrun
      exact ⟨σ, rfl, h⟩
  | cons l ls ih =>
      obtain ⟨σ₃, hnext, hrest⟩ := Option.bind_eq_some_iff.mp hrun
      cases l with
      | own l =>
          obtain ⟨σ₄, hnext', h'⟩ := h.own hconf.1 hnext
          obtain ⟨σ₂, hrun', hend⟩ := ih h' (hshows.2 σ₃ hnext) (hconf.2 σ₄ hnext') hrest
          use σ₂
          constructor
          · rw [List.filterMap_cons_some (by rfl), Effect.run, hnext']
            apply hrun'
          · apply hend
      | inserted g answers =>
          apply ih (h.inserted hshows.1 hnext) (hshows.2 σ₃ hnext) hconf hrest

theorem startAlike_initial {s : Sys} (hs : Initial s) :
  StartAlike ⟨s, []⟩ ⟨s, []⟩
  := by
  constructor
  · constructor
    · intro i
      constructor
      · apply (readFrom_self _).same
      · left
        rw [Unfilled, echo, (hs.idle i).lcpEcho, (hs.idle i).lcpEchoRetry]
      · apply Or.inl rfl
      · apply id
    · rfl
    · rfl
    · rfl
    · rfl
  · rfl

/-- The starts of a run pass the same commands to `system` as those of the run without the inserted
reads, if an inserted read finds no id in the session table but the one that the entry has, and every
start that configures its client finds that a read of the run has filled in `LCPEcho` and
`LCPEchoRetry` of the entry. -/
theorem commands_blind {s : Sys} (hs : Initial s) {ls : List Interleaved}
    (hshows : Throughout (Interleaved.next b) Interleaved.Shows ls ⟨s, []⟩)
    (hconf : Throughout (Access.nextStarting b) (ConfiguresFilled b)
      (ls.filterMap Interleaved.own?) ⟨s, []⟩)
    (hrun : run (Interleaved.next b) ls ⟨s, []⟩ = some σ') :
  ∃ σ, run (Access.nextStarting b) (ls.filterMap Interleaved.own?) ⟨s, []⟩ = some σ ∧
    σ'.commands = σ.commands
  := by
  obtain ⟨σ, hown, halike⟩ := (startAlike_initial hs).run hshows hconf hrun
  exact ⟨σ, hown, halike.commands⟩

/-! ### Runs -/

/-- The calls that start the client of the interface 1. -/
def startCalls : List Access :=
  [.setter (.interfaceBool 0 "Enable".toList true), .takeEvent].map (workingCall [pppdProcess 7])

/-- A read of `LCPEcho` of the interface 1. -/
def echoRead : Getter :=
  .interfaceUlong 0 "LCPEcho".toList

/-- A read of `LCPEcho` is inserted before the calls that start the client. -/
def readThenStart : List Interleaved :=
  .inserted echoRead (workingCall [pppdProcess 7] .constant).answers :: startCalls.map .own

/-- Where no file can be opened, the session table shows nothing. -/
theorem shows_workingCall (g : Getter) (σ : Starting) :
  (Interleaved.inserted g (workingCall [pppdProcess 7] .constant).answers).Shows σ
  := by
  intro k o _
  cases o with
  | readFile path =>
      intro id hid
      cases hlink : (σ.sys.table g.handle).cfg.linkType <;> rw [hlink] at hid <;> cases hid
  | _ => trivial

theorem sameFiles_readThenStart :
  Interleaved.SameFiles readThenStart
  := by
  use fun _ => none
  intro l hl k path
  simp only [readThenStart, startCalls, List.map_cons, List.map_nil, List.mem_cons,
    List.not_mem_nil, or_false] at hl
  rcases hl with rfl | rfl | rfl <;> rfl

theorem shows_readThenStart (ls : List Access) {σ : Starting} :
  Throughout (Interleaved.next b) Interleaved.Shows
    (.inserted echoRead (workingCall [pppdProcess 7] .constant).answers :: ls.map .own) σ
  := by
  apply throughout_of_forall
  intro l hl σ
  rcases List.mem_cons.mp hl with rfl | hl
  · apply shows_workingCall
  · obtain ⟨l, -, rfl⟩ := List.mem_map.mp hl
    trivial

end

/-- A read of `LCPEcho` changes the command that configures the client. -/
theorem read_changes_command :
  ¬ ∀ (b : Build) (s : Sys) (ls : List Interleaved) (σ' : Starting), b.usePppDaemon = false →
    Initial s → Interleaved.SameFiles ls →
    run (Interleaved.next b) ls ⟨s, []⟩ = some σ' →
    ∃ σ, run (Access.nextStarting b) (ls.filterMap Interleaved.own?) ⟨s, []⟩ = some σ ∧
      σ'.commands = σ.commands
  := by
  intro h
  have hown : (run (Access.nextStarting (plainBuild false)) startCalls ⟨freshState 1, []⟩).map
      Starting.commands =
        some ["pppoe_config.sh 'user' 'secret' vlan101 ppp0 PPPoE 0 0 0 ".toList, pppoeStart] := by
    decide +kernel
  have hend : (run (Interleaved.next (plainBuild false)) readThenStart
      ⟨freshState 1, []⟩).map Starting.commands =
        some ["pppoe_config.sh 'user' 'secret' vlan101 ppp0 PPPoE 30 3 0 ".toList, pppoeStart] := by
    decide +kernel
  obtain ⟨σ', hrun, hcommands⟩ := Option.map_eq_some_iff.mp hend
  obtain ⟨σ, hrun', heq⟩ := h _ _ readThenStart σ' rfl (initial_freshState (by decide))
    sameFiles_readThenStart hrun
  rw [show readThenStart.filterMap Interleaved.own? = startCalls from rfl] at hrun'
  rw [hrun', Option.map_some, ← heq, hcommands] at hown
  apply absurd hown
  decide +kernel

/-- The calls read `LCPEcho` before they start the client. -/
def echoThenStart : List Access :=
  workingCall [pppdProcess 7] (.getter echoRead) :: startCalls

/-- What has to be tested of a call that may configure a client. -/
def filledTest (l : Access) (σ : Starting) : Bool :=
  (l.point.starts σ.sys).all fun n => decide (σ.sys.table (n - 1)).Filled

theorem configuresFilled_of_test {b : Build} {l : Access} {σ : Starting}
    (h : filledTest l σ = true) :
  ConfiguresFilled b l σ
  := by
  intro n hn
  left
  apply of_decide_eq_true
  apply (Option.all_eq_true _ _).mp h n hn

theorem commands_blind_echoThenStart :
  ∃ σ σ', run (Access.nextStarting (plainBuild false)) echoThenStart ⟨freshState 1, []⟩ = some σ ∧
    run (Interleaved.next (plainBuild false))
      (.inserted echoRead (workingCall [pppdProcess 7] .constant).answers :: echoThenStart.map .own)
      ⟨freshState 1, []⟩ = some σ' ∧ σ'.commands = σ.commands
  := by
  have htest : check (Access.nextStarting (plainBuild false)) filledTest echoThenStart
      ⟨freshState 1, []⟩ = true := by
    decide +kernel
  have hend : (run (Interleaved.next (plainBuild false))
      (.inserted echoRead (workingCall [pppdProcess 7] .constant).answers :: echoThenStart.map .own)
      ⟨freshState 1, []⟩).isSome = true := by
    decide +kernel
  obtain ⟨σ', hrun⟩ := Option.isSome_iff_exists.mp hend
  obtain ⟨σ, hrun', hcommands⟩ := commands_blind (initial_freshState (by decide))
    (shows_readThenStart echoThenStart)
    (throughout_of_check (fun l _ σ => configuresFilled_of_test) htest) hrun
  exact ⟨σ, σ', hrun', hrun, hcommands⟩

end PppManager
