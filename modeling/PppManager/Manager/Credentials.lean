import PppManager.Manager.Outside
import PppManager.Shell.Words

/-!
# Credentials

The credentials of an interface are written by the data model, and stand between single quotes in
the command that configures the client.  The user name may have a single quote, since the range
`#-.` of the expression it is checked with has one, and the password is not checked.  The shell
splits the command into the arguments it is written from exactly if neither has one
(`splitsIntended_iff`).
-/

namespace PppManager

open Effect CText Shell

/-- The state after the setter of the string parameter `paramName` of the entry `i` has accepted
`v`. -/
def accept (i : ℕ) (paramName v : CStr) (ω : Answers) (s : Sys) : Option Sys :=
  match (machine .dataModel).exec ω (interfaceSetParamStringValue i paramName v) 0 s with
  | .ok (true, s', _) => some s'
  | _ => none

/-- The name of an interface, in an array of `size` bytes. -/
def PlainName (size : ℕ) (name : CStr) : Prop :=
  name ≠ [] ∧ name.length < size ∧ ∀ c ∈ name, c.isAlphanum = true

theorem plainName_of_all {size : ℕ} {name : CStr} (hne : name ≠ []) (hsize : name.length < size)
    (hall : name.all Char.isAlphanum = true) :
  PlainName size name
  := ⟨hne, hsize, List.all_eq_true.mp hall⟩

/-- The bus gives a VLAN name for the parameter `name`, if it gives anything. -/
def NamesVlan (name : CStr) : (o : Op) → o.Ans → Prop
  | .busGet _ _ name', r => name' = name → r = none ∨ ∃ v, r = some (some v) ∧ PlainName 32 v
  | _, _ => True

/-- The command configures a client of `rp-pppoe`. -/
def isConfigCommand (command : CStr) : Bool :=
  "pppoe_config.sh".toList.isPrefixOf command

/-- A shell splits the command into the name of the script and eight arguments, the first of which
is the user name and the second the password. -/
def SplitsIntended (username password command : CStr) : Prop :=
  ∃ args : List CStr, args.length = 6 ∧
    Splits command ("pppoe_config.sh".toList :: username :: password :: args)

section

variable {t : Thread} {A : (o : Op) → o.Ans → Prop} {F : Prop} {b : Build} {s s' : Sys} {i : ℕ}
  {u p : CStr}

/-! ### What the setter accepts -/

theorem wp_anscCopyString {size : ℕ} {set : CStr → DmlPppIfFull → DmlPppIfFull} {v : CStr}
    {Q : Unit → Sys → Prop}
    (hQ : v.length < size → i < pppTableLength → Q () (s.setEntry i (set v (s.table i)))) :
  (contract t A F).wp (anscCopyString i size set v) Q s
  := by
  rw [anscCopyString]
  split_ifs with h
  · rw [wp_store]
    apply hQ h
  · apply wp_undefined

theorem wp_writeUsername {Q : Bool → Sys → Prop} (hrefused : Q false s)
    (hQ : validateUsername u = true → u ≠ [] → u.length < 65 → i < pppTableLength →
      Q true (s.setEntry i ((s.table i).setUsername u))) :
  (contract t A F).wp (writeStringParam i "Username".toList u) Q s
  := by
  rw [writeStringParam, if_neg (by decide), if_neg (by decide), if_pos rfl]
  split_ifs with hempty hvalid
  · apply hrefused
  · rw [Contract.wp_bind]
    apply wp_anscCopyString
    apply hQ hvalid hempty
  · apply hrefused

theorem wp_writePassword {Q : Bool → Sys → Prop} (hrefused : Q false s)
    (hQ : p ≠ [] → p.length < 65 → i < pppTableLength →
      Q true (s.setEntry i ((s.table i).setPassword p))) :
  (contract t A F).wp (writeStringParam i "Password".toList p) Q s
  := by
  rw [writeStringParam, if_neg (by decide), if_neg (by decide), if_neg (by decide), if_pos rfl]
  split_ifs with hempty
  · apply hrefused
  · rw [Contract.wp_bind]
    apply wp_anscCopyString
    apply hQ hempty

/-- What the setter leaves when it accepts a value. -/
theorem accept_ends {paramName v : CStr} {ω : Answers} {e : DmlPppIfFull} {P : Prop}
    (hwrite : ∀ {Q : Bool → Sys → Prop} {s' : Sys}, Q false s' →
      (P → i < pppTableLength → Q true (s'.setEntry i e)) → s'.table i = s.table i →
      (contract .dataModel Unrestricted True).wp (writeStringParam i paramName v) Q s')
    (h : accept i paramName v ω s = some s') :
  s' = s.setEntry i e ∧ P
  := by
  rw [accept] at h
  split at h
  · rename_i s₁ k hexec
    obtain rfl := Option.some.inj h
    have hresp : (contract .dataModel Unrestricted True).Respects ω := fun _ _ _ => trivial
    apply Contract.wp_exec_ok (Q := fun r s' => r = true → s' = s.setEntry i e ∧ P) hresp _ hexec
      rfl
    rw [interfaceSetParamStringValue]
    apply wp_bracket
    apply hwrite
    · use s, rfl, rfl
      rintro ⟨⟩
    · intro hP _
      use s.setEntry i e, rfl, rfl
      intro _
      use rfl, hP
    · rfl
  · cases h

/-- A user name that is accepted is stored, and fits its array. -/
theorem accept_username {ω : Answers} (h : accept i "Username".toList u ω s = some s') :
  s' = s.setEntry i ((s.table i).setUsername u) ∧ u.length < 65
  := by
  apply accept_ends _ h
  intro Q s' hrefused hQ htable
  apply wp_writeUsername hrefused
  rw [htable]
  intro _ _ hlength
  apply hQ hlength

/-- A password that is accepted is stored, and fits its array. -/
theorem accept_password {ω : Answers} (h : accept i "Password".toList p ω s = some s') :
  s' = s.setEntry i ((s.table i).setPassword p) ∧ p.length < 65
  := by
  apply accept_ends _ h
  intro Q s' hrefused hQ htable
  apply wp_writePassword hrefused
  rw [htable]
  intro _ hlength
  apply hQ hlength

/-! ### The command -/

/-- The arguments of the command that configures the client of the entry `e` over the VLAN interface
`vlan`, after the credentials. -/
def configArgs (vlan : CStr) (e : DmlPppIfFull) : List CStr :=
  [vlan, e.info.name, "PPPoE".toList, dec e.info.lcpEcho.toLong, dec e.info.lcpEchoRetry.toLong,
    dec e.cfg.maxMRUSize.toNat]

theorem pppoeConfigCommand_eq (vlan : CStr) (e : DmlPppIfFull) :
  pppoeConfigCommand vlan e =
    commandLine ([.bare "pppoe_config.sh".toList, .quoted e.cfg.username] ++
      .quoted e.cfg.password :: (configArgs vlan e).map .bare)
  := by
  have hprintf : pppoeConfigCommand vlan e = "pppoe_config.sh '".toList ++ (e.cfg.username ++
      ("' '".toList ++ (e.cfg.password ++ ("' ".toList ++ (vlan ++ (" ".toList ++ (e.info.name ++
        (" PPPoE ".toList ++ (dec e.info.lcpEcho.toLong ++ (" ".toList ++
          (dec e.info.lcpEchoRetry.toLong ++ (" ".toList ++ (dec e.cfg.maxMRUSize.toNat ++
            " ".toList))))))))))))) := rfl
  rw [hprintf]
  simp only [configArgs, commandLine, Piece.text, List.map_cons, List.map_nil, List.cons_append,
    List.nil_append, List.append_assoc]
  rfl

theorem isOrdinary_of_isAlphanum {c : Char} (h : c.isAlphanum = true) :
  isOrdinary c = true
  := by
  simp [isOrdinary, h]

/-- The decimal text of a number is a word. -/
theorem wellFormed_dec (n : ℤ) :
  (Piece.bare (dec n)).WellFormed
  := by
  have hdigits : ∀ n : ℕ, ∀ c ∈ Nat.toDigits 10 n, isOrdinary c = true := by
    intro n c hc
    apply isOrdinary_of_isAlphanum
    have hdigit := Nat.isDigit_of_mem_toDigits (by decide) (by decide) hc
    simp [Char.isAlphanum, hdigit]
  cases n with
  | ofNat n => exact ⟨Nat.toDigits_ne_nil, hdigits n⟩
  | negSucc n =>
      constructor
      · apply List.cons_ne_nil
      · intro c hc
        rcases List.mem_cons.mp hc with rfl | hc
        · rfl
        · apply hdigits _ c hc

theorem PlainName.wellFormed {size : ℕ} {name : CStr} (h : PlainName size name) :
  (Piece.bare name).WellFormed
  := ⟨h.1, fun c hc => isOrdinary_of_isAlphanum (h.2.2 c hc)⟩

/-- The command is split as intended exactly if neither credential has a single quote. -/
theorem splits_pppoeConfigCommand_iff {vlan : CStr} {e : DmlPppIfFull} (hvlan : PlainName 32 vlan)
    (hname : PlainName 64 e.info.name) :
  SplitsIntended e.cfg.username e.cfg.password (pppoeConfigCommand vlan e) ↔
    '\'' ∉ e.cfg.username ∧ '\'' ∉ e.cfg.password
  := by
  have hscript : (Piece.bare "pppoe_config.sh".toList).WellFormed := by
    constructor
    · decide
    · apply List.all_eq_true.mp
      decide
  have hps : ∀ p ∈ [Piece.bare "pppoe_config.sh".toList, .quoted e.cfg.username],
      p.WellFormed := by
    intro p hp
    rcases List.mem_pair.mp hp with rfl | rfl
    · apply hscript
    · trivial
  have hargs : ∀ v ∈ configArgs vlan e, (Piece.bare v).WellFormed := by
    simp only [configArgs, List.forall_mem_cons, List.not_mem_nil, false_implies, implies_true,
      and_true]
    refine ⟨hvlan.wellFormed, hname.wellFormed, ?_, wellFormed_dec _, wellFormed_dec _,
      wellFormed_dec _⟩
    constructor
    · decide
    · apply List.all_eq_true.mp
      decide
  rw [pppoeConfigCommand_eq]
  apply (splits_commandLine_iff (w := e.cfg.password) hps hargs).trans
  constructor
  · intro h
    exact ⟨h (.quoted _) (by simp), h (.quoted _) (by simp)⟩
  · rintro ⟨hu, hp⟩ p hmem
    rcases List.mem_append.mp hmem with hmem | hmem
    · rcases List.mem_pair.mp hmem with rfl | rfl
      · trivial
      · apply hu
    · rw [List.mem_singleton.mp hmem]
      apply hp

/-! ### The start -/

/-- The command that configures the client, of the commands a start runs. -/
theorem Configures.command {e : DmlPppIfFull} {name : CStr} {cs : List CStr} {command c : CStr}
    (h : Configures (NamesVlan name) b e cs command) (hdaemon : b.usePppDaemon = false)
    (hlink : e.cfg.linkType = .pppoe) (hname : e.vlanParamName = name) (hc : c ∈ cs ++ [command])
    (hconfig : isConfigCommand c = true) :
  ∃ vlan, PlainName 32 vlan ∧ c = (pppoeConfigCommand vlan e).take 1023
  := by
  cases h with
  | noLink h =>
      rw [DmlPppIfFull.hasLink, hlink] at h
      cases h
  | daemon lib service h =>
      rw [hdaemon] at h
      cases h
  | pppoa _ h =>
      rw [hlink] at h
      cases h
  | pppoe r padt _ _ hr hpadt =>
      obtain h | ⟨vlan, hvlan, hplain⟩ := hr hname
      · cases h
      · obtain rfl := Option.some.inj hvlan
        use vlan, hplain
        rcases List.mem_append.mp hc with hc | hc
        · rcases List.mem_append.mp hc with hc | hc
          · rw [ifFits] at hc
            split_ifs at hc
            · apply List.mem_singleton.mp hc
            · cases hc
          · obtain ⟨mac, rfl⟩ := hpadt c hc
            cases hconfig
        · rw [List.mem_singleton.mp hc] at hconfig
          apply absurd hconfig (by decide)

/-- The command that configures the client is written from the entry, where the credentials come
from the database. -/
theorem StartEnds.command {c : CStr} {r : AnscStatus} (hdaemon : b.usePppDaemon = false)
    (hpsm : b.pppUsernamePasswordFromPsm = true) (hlink : (s.table i).cfg.linkType = .pppoe)
    (h : StartEnds (NamesVlan (s.table i).vlanParamName) b s (i + 1) r s')
    (hc : .system c ∈ s'.acts.drop s.acts.length) (hconfig : isConfigCommand c = true) :
  ∃ vlan, PlainName 32 vlan ∧ c = (pppoeConfigCommand vlan (s.table i)).take 1023
  := by
  have hnone : ¬ Act.system c ∈ s.acts.drop s.acts.length := by
    rw [List.drop_length]
    apply List.not_mem_nil
  cases h with
  | noWanIface => apply absurd hc hnone
  | alreadyRunning => apply absurd hc hnone
  | rejected => apply absurd hc hnone
  | launched j e cs command r w v hn hj hstopped he hparams hconf hr =>
      obtain rfl := Nat.succ_inj.mp hn
      obtain ⟨u', p', hsame, rfl⟩ := he
      obtain ⟨rfl, rfl⟩ := hsame.1 hpsm
      rw [Sys.systems_acts, Sys.setEntry_acts, List.drop_left] at hc
      obtain ⟨c', hc', hsystem⟩ := List.mem_map.mp hc
      obtain rfl := Act.system.inj hsystem
      obtain ⟨vlan, hvlan, hcommand⟩ := hconf.command hdaemon hlink rfl hc' hconfig
      use vlan, hvlan
      apply hcommand

/-- Every command that configures the client of a PPPoE interface, with credentials the data model
accepted, is split as intended by a shell exactly if neither credential has a single quote. -/
theorem splitsIntended_iff (hdaemon : b.usePppDaemon = false)
    (hpsm : b.pppUsernamePasswordFromPsm = true) {s₁ s₂ s₃ : Sys} {ω ω' ω'' : Answers} {c : CStr}
    (hlink : (s.table i).cfg.linkType = .pppoe) (hname : PlainName 64 (s.table i).info.name)
    (husername : accept i "Username".toList u ω s = some s₁)
    (hpassword : accept i "Password".toList p ω' s₁ = some s₂)
    (hvlan : Turn.Allowed (NamesVlan (s.table i).vlanParamName) ⟨.start (i + 1), ω''⟩)
    (hstart : Turn.next b ⟨.start (i + 1), ω''⟩ s₂ = some s₃)
    (hc : .system c ∈ s₃.acts.drop s₂.acts.length) (hconfig : isConfigCommand c = true) :
  SplitsIntended u p c ↔ '\'' ∉ u ∧ '\'' ∉ p
  := by
  obtain ⟨rfl, hu⟩ := accept_username husername
  obtain ⟨rfl, hp⟩ := accept_password hpassword
  obtain ⟨r, hends⟩ := Turn.next_ends hvlan hstart
  let e := ((s.table i).setUsername u).setPassword p
  have hentry : ((s.setEntry i ((s.table i).setUsername u)).setEntry i
      (((s.setEntry i ((s.table i).setUsername u)).table i).setPassword p)).table i = e := by
    simp only [Sys.setEntry_table, Function.update_self]
    rfl
  have hparam : (s.table i).vlanParamName = e.vlanParamName := rfl
  rw [hparam, ← hentry] at hends
  cases hends with
  | start hends =>
      obtain ⟨vlan, hvlan, rfl⟩ :=
        hends.command hdaemon hpsm (by rw [hentry]; apply hlink) hc hconfig
      rw [hentry, List.take_of_length_le (length_pppoeConfigCommand (e := e) hvlan.2.1 hname.2.1 hu hp)]
      apply splits_pppoeConfigCommand_iff (e := e) hvlan hname

/-! ### A user name that ends its quotes -/

/-- The answers of an outside in which the PPP interface 1 has the VLAN interface `vlan101` below
it. -/
def vlanAnswers : Answers
  | k, .busGet component bus name =>
    if name = "Device.VLAN.1.Name".toList then some (some "vlan101".toList)
    else (workingOutside 1 none []).answers (k + 1) (.busGet component bus name)
  | k, o => (workingOutside 1 none []).answers k o

/-- The states between and after storing credentials in the first entry and starting its client. -/
def startWith (u p : CStr) : Option (Sys × Sys × Sys) := do
  let s₁ ← accept 0 "Username".toList u vlanAnswers (freshState 1)
  let s₂ ← accept 0 "Password".toList p vlanAnswers s₁
  let s₃ ← Turn.next (plainBuild false) ⟨.start 1, vlanAnswers⟩ s₂
  some (s₁, s₂, s₃)

theorem allowed_vlanAnswers :
  Turn.Allowed (NamesVlan ((freshState 1).table 0).vlanParamName) ⟨.start 1, vlanAnswers⟩
  := by
  intro k o _
  cases o with
  | busGet component bus name =>
      rintro rfl
      right
      have hparam : ((freshState 1).table 0).vlanParamName = "Device.VLAN.1.Name".toList := by
        decide
      have hanswer : vlanAnswers k (.busGet component bus ((freshState 1).table 0).vlanParamName) =
          some (some "vlan101".toList) := by
        rw [vlanAnswers, if_pos hparam]
      use "vlan101".toList, hanswer
      apply plainName_of_all <;> decide
  | _ => trivial

/-- The steps of a start with credentials that end in some state. -/
theorem startWith_steps {u p : CStr} {s₁ s₂ s₃ : Sys} (h : startWith u p = some (s₁, s₂, s₃)) :
  accept 0 "Username".toList u vlanAnswers (freshState 1) = some s₁ ∧
    accept 0 "Password".toList p vlanAnswers s₁ = some s₂ ∧
    Turn.next (plainBuild false) ⟨.start 1, vlanAnswers⟩ s₂ = some s₃
  := by
  obtain ⟨s₁', h₁, hrest₁⟩ := Option.bind_eq_some_iff.mp h
  obtain ⟨s₂', h₂, hrest₂⟩ := Option.bind_eq_some_iff.mp hrest₁
  obtain ⟨s₃', h₃, hend⟩ := Option.bind_eq_some_iff.mp hrest₂
  obtain ⟨rfl, hpair⟩ := Prod.mk.inj (Option.some.inj hend)
  obtain ⟨rfl, rfl⟩ := Prod.mk.inj hpair
  exact ⟨h₁, h₂, h₃⟩

theorem plainName_freshState :
  PlainName 64 ((freshState 1).table 0).info.name
  := by
  apply plainName_of_all <;> decide

/-- The command that configures the client of the first entry with credentials. -/
def freshCommand (u p : CStr) : CStr :=
  pppoeConfigCommand "vlan101".toList (((pppoeEntry 0).setUsername u).setPassword p)

/-- A start with credentials runs the command. -/
def runsCommand (u p : CStr) : Bool :=
  (startWith u p).any (fun (_, s₂, s₃) =>
    .system (freshCommand u p) ∈ s₃.acts.drop s₂.acts.length)

theorem startWith_of_runsCommand {u p : CStr} (h : runsCommand u p = true) :
  ∃ s₁ s₂ s₃, startWith u p = some (s₁, s₂, s₃) ∧
    .system (freshCommand u p) ∈ s₃.acts.drop s₂.acts.length
  := by
  obtain ⟨⟨s₁, s₂, s₃⟩, hstart, hc⟩ := (Option.any_eq_true _ _).mp h
  exact ⟨s₁, s₂, s₃, hstart, of_decide_eq_true hc⟩

theorem splitsIntended_iff_user :
  SplitsIntended "user".toList "secret".toList (freshCommand "user".toList "secret".toList) ↔
    '\'' ∉ "user".toList ∧ '\'' ∉ "secret".toList
  := by
  have hruns : runsCommand "user".toList "secret".toList = true := by
    decide +kernel
  obtain ⟨s₁, s₂, s₃, hstart, hc⟩ := startWith_of_runsCommand hruns
  obtain ⟨husername, hpassword, hnext⟩ := startWith_steps hstart
  apply splitsIntended_iff (b := plainBuild false) rfl rfl rfl plainName_freshState husername
    hpassword allowed_vlanAnswers hnext hc
  decide

/-- A user name the data model accepts ends its quotes and has a command of its own run. -/
theorem username_starts_command :
  ¬ ∀ (b : Build) (s s₁ s₂ s₃ : Sys) (ω ω' ω'' : Answers) (i : ℕ) (u p c : CStr),
    b.usePppDaemon = false → b.pppUsernamePasswordFromPsm = true →
    (s.table i).cfg.linkType = .pppoe → PlainName 64 (s.table i).info.name →
    accept i "Username".toList u ω s = some s₁ → accept i "Password".toList p ω' s₁ = some s₂ →
    Turn.Allowed (NamesVlan (s.table i).vlanParamName) ⟨.start (i + 1), ω''⟩ →
    Turn.next b ⟨.start (i + 1), ω''⟩ s₂ = some s₃ →
    .system c ∈ s₃.acts.drop s₂.acts.length → isConfigCommand c = true → SplitsIntended u p c
  := by
  intro h
  have hruns : runsCommand "a'&reboot&'".toList "secret".toList = true := by
    decide +kernel
  obtain ⟨s₁, s₂, s₃, hstart, hc⟩ := startWith_of_runsCommand hruns
  obtain ⟨husername, hpassword, hnext⟩ := startWith_steps hstart
  obtain ⟨args, -, -, htokens⟩ := h (plainBuild false) _ _ _ _ _ _ _ 0 _ _ _ rfl rfl rfl
    plainName_freshState husername hpassword allowed_vlanAnswers hnext hc (by decide)
  have htokens' : (tokens (freshCommand "a'&reboot&'".toList "secret".toList)).map
      (fun ts => ts.take 6) = some [.word "pppoe_config.sh".toList, .word ['a'], .operator '&',
        .word "reboot".toList, .operator '&', .word []] := by
    decide +kernel
  rw [htokens] at htokens'
  cases htokens'

end

end PppManager
