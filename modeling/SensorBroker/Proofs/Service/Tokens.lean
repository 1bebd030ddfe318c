/-
# Whether the death of a process is heard of

The death of a client is announced by its token. Opening a channel, of either
kind, enters the token for its process; the death of the process strikes it
out, and so does closing its data channel, whatever else the process still has:
a socket channel, subscriptions, a snapshot. Of a death that is announced after
that nothing is unwound (`Broker.unheard_after_close`).

Where every process keeps to one token of its own, the token stands for its
process exactly if it was entered and has not been struck out since
(`Broker.Enrolled`), and then the announcement unwinds the process.

Key definitions: `Broker.Op.Enrolls`, `Broker.Op.Kills`, `Broker.Op.Strikes`,
`Broker.Retokens`, `Broker.Enrolled`, `Broker.Started`.
Key theorems: `Broker.Orderly.retokens`, `Broker.stands_run_iff`,
`Broker.Started.heard_iff_enrolled`.
-/
import SensorBroker.Proofs.Service.Doubling
import SensorBroker.Proofs.Service.HangingUp

namespace SensorBroker
namespace Broker

/-! ### What enters a token and what strikes it out -/

/-- A request that enters the token of a process: it opens a channel. -/
def Op.Enrolls : Op → Pid → Prop
  | .openDataChannel caller, pid => caller.pid = pid ∧ ¬ pid < 0
  | .openSocketChannel caller, pid => caller.pid = pid ∧ ¬ pid < 0
  | _, _ => False

/-- The watcher of a channel finds the client gone. -/
def HangsUp (b : Broker) (id : ChannelId) : Prop :=
  ∃ ws, b.watchers = some ws ∧ (ws.poll b.channels id).2.1 = .hungUp

/-- An operation by which a process dies: its death is made known, announced by
a token that stands for it, or seen by the watcher of its data channel. -/
def Op.Kills (b : Broker) : Op → Pid → Prop
  | .processDeath pid', pid => pid' = pid
  | .clientDied token, pid => b.registry.tokens.get? token = some pid
  | .poll id, pid => b.registry.channels.get? pid = some id ∧ b.HangsUp id
  | _, _ => False

/-- An operation that strikes out the token of a process: the process dies, or
its data channel is closed at its request. -/
def Op.Strikes (b : Broker) : Op → Pid → Prop
  | .closeDataChannel caller, pid => caller.pid = pid ∧ (b.closeDataChannel caller).1 = .ok ()
  | op, pid => op.Kills b pid

/-- Who asks, where an operation is a request. -/
def Op.caller? : Op → Option Identity
  | .enable caller .. | .disable caller _ | .setMode caller .. | .flush caller _
  | .openDataChannel caller | .closeDataChannel caller | .openSocketChannel caller
  | .closeSocketChannel caller | .listen caller | .unlisten caller => some caller
  | _ => none

/-- A request, if it is one, is made with the token of its process. -/
def Op.Signed (own : Pid → Token) (op : Op) : Prop :=
  ∀ caller, op.caller? = some caller → caller.token = own caller.pid

instance (own : Pid → Token) (op : Op) : Decidable (op.Signed own) :=
  decidable_of_iff (op.caller?.all fun caller => caller.token = own caller.pid) <| by
    simp [Op.Signed, Option.all_eq_true]

variable {b b' : Broker} {pid : Pid} {s : SensorId} {r : Except ServiceError Unit}

/-! ### What leaves tokens alone -/

theorem EnablesFor.tokens {caller : Identity} {request : Request}
    (h : b.EnablesFor caller s request r b') : b'.registry.tokens = b.registry.tokens := by
  cases h with
  | refused e restored _ => exact restored.tokens
  | subscribed done registry _ =>
    rw [registry]
    exact (Arbitration.Kept.of_enable done).tokens

theorem DisablesFor.tokens (h : b.DisablesFor pid s r b') :
    b'.registry.tokens = b.registry.tokens := by
  have hsame := b.suspension.arbitration_discard pid s
  cases h with
  | refused => rfl
  | discarded found =>
    rw [found] at hsame
    rw [registry_report]
    exact congrArg (fun a : Arbitration => a.registry.tokens) hsame
  | ended _ done =>
    rw [registry_report]
    exact (Arbitration.Kept.of_disable done).tokens
  | failed _ failure => exact (Arbitration.Kept.of_disable failure).tokens

theorem tokens_disableEach (s : SensorId) : ∀ (pids : List Pid) (b : Broker),
    (disableEach s pids b).registry.tokens = b.registry.tokens
  | [], _ => rfl
  | pid :: rest, b => (tokens_disableEach s rest _).trans (b.disablesFor pid s).tokens

theorem tokens_setMode (b : Broker) (caller : Identity) (s : SensorId) (mode : Int32) :
    (b.setMode caller s mode).2.registry.tokens = b.registry.tokens := by
  unfold setMode forPid
  split_ifs
  · rfl
  · exact (b.arbitration.kept_perform (.setMode s mode)).tokens
  · rfl

theorem tokens_flush (b : Broker) (caller : Identity) (s : SensorId) :
    (b.flush caller s).2.registry.tokens = b.registry.tokens := by
  unfold flush forPid
  split_ifs
  · rfl
  · rfl
  · split
    · rfl
    · next channel _ =>
      obtain ⟨hw, flushes, queue, dropped, -, heq⟩ :=
        b.exists_requestFlush s caller.pid channel false
      rw [heq]
      rfl

theorem tokens_suspend (b : Broker) (pid : Pid) :
    (b.suspend pid).2.registry.tokens = b.registry.tokens := by
  unfold suspend forPid
  split_ifs
  · rfl
  · rw [registry, arbitration, suspension_reportSuspended]
    exact (b.suspension.kept_suspend pid).tokens

theorem tokens_resume (b : Broker) (pid : Pid) :
    (b.resume pid).2.registry.tokens = b.registry.tokens := by
  have hkept := b.suspension.kept_resume pid
  unfold resume forPid
  split_ifs
  · rfl
  · rcases hr : b.suspension.resume pid with ⟨e | outcome, x⟩
    · rw [hr] at hkept
      exact hkept.tokens
    · rw [hr] at hkept
      rw [registry, arbitration, suspension_foldl_reportActive]
      exact hkept.tokens

theorem tokens_inject (b : Broker) (s : SensorId) :
    (b.inject s).2.registry.tokens = b.registry.tokens := by
  unfold inject
  split <;> rfl

theorem tokens_withdraw (b : Broker) (s : SensorId) :
    (b.withdraw s).2.registry.tokens = b.registry.tokens := by
  unfold withdraw
  split_ifs
  · have heach := tokens_disableEach s (b.registry.subscribers s) b
    simp only
    split <;> exact heach
  · rfl

theorem tokens_closeSocketChannel (b : Broker) (caller : Identity) :
    (b.closeSocketChannel caller).2.registry.tokens = b.registry.tokens := by
  unfold closeSocketChannel forPid
  split_ifs
  · rfl
  · rw [registry_dropSocketChannel]

theorem tokens_listen (b : Broker) (caller : Identity) :
    (b.listen caller).2.registry.tokens = b.registry.tokens := by
  unfold listen forPid
  split_ifs <;> rfl

theorem tokens_unlisten (b : Broker) (caller : Identity) :
    (b.unlisten caller).2.registry.tokens = b.registry.tokens := by
  unfold unlisten forPid
  split_ifs <;> rfl

/-! ### One operation -/

theorem tokens_openDataChannel (b : Broker) (caller : Identity) :
    (b.openDataChannel caller).2.registry.tokens =
      if caller.pid < 0 then b.registry.tokens
      else b.registry.tokens.insert caller.token caller.pid := by
  unfold openDataChannel forPid
  split_ifs
  · rfl
  · simp only
    split <;> rfl

theorem tokens_openSocketChannel (b : Broker) (caller : Identity) :
    (b.openSocketChannel caller).2.registry.tokens =
      if caller.pid < 0 then b.registry.tokens
      else b.registry.tokens.insert caller.token caller.pid := by
  unfold openSocketChannel forPid
  split_ifs
  · rfl
  · cases b.directory.byPid.get? caller.pid <;> rfl

theorem tokens_closeDataChannel (b : Broker) (caller : Identity) :
    ((b.closeDataChannel caller).1 = .ok () ∧
      (b.closeDataChannel caller).2.registry.tokens = b.registry.tokens.erase caller.token) ∨
    ((b.closeDataChannel caller).1 ≠ .ok () ∧
      (b.closeDataChannel caller).2.registry.tokens = b.registry.tokens) := by
  unfold closeDataChannel forPid Registry.destroyChannel
  split_ifs
  · exact .inr ⟨nofun, rfl⟩
  · cases b.registry.channels.get? caller.pid with
    | none => exact .inr ⟨nofun, rfl⟩
    | some id => exact .inl ⟨rfl, rfl⟩

/-- After a death, the tokens of others are what they were. -/
theorem token_processDeath (b : Broker) (other : Pid) (token : Token) :
    (b.processDeath other).2.registry.tokens.get? token = some pid ↔
      b.registry.tokens.get? token = some pid ∧ other ≠ pid := by
  obtain ⟨-, -, -, htokens, -, -⟩ := b.records_processDeath other
  rw [htokens, Table.get?_filter, Option.filter_eq_some_iff, decide_eq_true_iff]
  exact and_congr_right fun _ => ne_comm

/-- A watcher that finds the client of a data channel gone takes it as the death
of its process. -/
theorem Orderly.poll_of_hangsUp (h : b.Orderly) {id : ChannelId} (hup : b.HangsUp id)
    (hcurrent : b.registry.channels.get? pid = some id) :
    ∃ ws channels, b.poll id =
      (({ b with watchers := some ws, channels } : Broker).processDeath pid).2 := by
  obtain ⟨ws, hws, hstatus⟩ := hup
  have htraits := ws.traits?_poll b.channels id id
  rw [h.current hcurrent] at htraits
  obtain ⟨session, hsession, htrait⟩ := Option.map_eq_some_iff.1 htraits
  have howner : session.pid = pid := congrArg Prod.fst htrait
  refine ⟨(ws.poll b.channels id).2.2.1, (ws.poll b.channels id).2.2.2, ?_⟩
  unfold poll
  rw [hws]
  simp only [hstatus, if_true]
  unfold hangUp
  simp only [hsession, howner]
  exact if_pos hcurrent

theorem token_poll (h : b.Orderly) (id : ChannelId) (token : Token) (pid : Pid) :
    (b.poll id).registry.tokens.get? token = some pid ↔
      b.registry.tokens.get? token = some pid ∧
        ¬ (b.registry.channels.get? pid = some id ∧ b.HangsUp id) := by
  by_cases hcurrent : b.registry.channels.get? pid = some id
  · by_cases hup : b.HangsUp id
    · obtain ⟨ws, channels, hpoll⟩ := h.poll_of_hangsUp hup hcurrent
      rw [hpoll, token_processDeath]
      simp [hcurrent, hup]
    · have hregistry : (b.poll id).registry = b.registry := by
        unfold poll
        split
        · rfl
        · next ws hws =>
          simp only
          rw [if_neg fun hstatus => hup ⟨ws, hws, hstatus⟩]
          rfl
      rw [hregistry]
      simp [hup]
  · rw [(b.spares_poll hcurrent).token]
    simp [hcurrent]

theorem token_clientDied (b : Broker) (token token' : Token) (pid : Pid) :
    (b.clientDied token).2.registry.tokens.get? token' = some pid ↔
      b.registry.tokens.get? token' = some pid ∧ token' ≠ token ∧
        b.registry.tokens.get? token ≠ some pid := by
  unfold clientDied Registry.dropToken
  cases hstands : b.registry.tokens.get? token with
  | none =>
    refine ⟨fun h => ⟨h, fun heq => ?_, nofun⟩, And.left⟩
    rw [heq, hstands] at h
    cases h
  | some other =>
    simp only
    rw [token_processDeath]
    show (b.registry.tokens.erase token).get? token' = some pid ∧ other ≠ pid ↔ _
    rw [Table.get?_erase]
    split_ifs with htoken
    · simp [htoken]
    · simp [htoken]

/-- What one operation does to the table of tokens: nothing; it enters the token
of its caller, or strikes it out; or it strikes out all that stand for a process
that dies. -/
inductive Retokens (b : Broker) (op : Op) (b' : Broker) : Prop
  | alone (enrolls : ∀ pid, ¬ op.Enrolls pid) (strikes : ∀ pid, ¬ op.Strikes b pid)
    (tokens : ∀ token pid, b'.registry.tokens.get? token = some pid ↔
      b.registry.tokens.get? token = some pid)
  | opened {caller} (asks : op.caller? = some caller)
    (enrolls : ∀ pid, op.Enrolls pid ↔ caller.pid = pid) (strikes : ∀ pid, ¬ op.Strikes b pid)
    (tokens : b'.registry.tokens = b.registry.tokens.insert caller.token caller.pid)
  | closed {caller} (asks : op.caller? = some caller) (enrolls : ∀ pid, ¬ op.Enrolls pid)
    (strikes : ∀ pid, op.Strikes b pid ↔ caller.pid = pid)
    (tokens : b'.registry.tokens = b.registry.tokens.erase caller.token)
  | died {other} (enrolls : ∀ pid, ¬ op.Enrolls pid)
    (strikes : ∀ pid, op.Strikes b pid ↔ other = pid)
    (tokens : ∀ token pid, b'.registry.tokens.get? token = some pid ↔
      b.registry.tokens.get? token = some pid ∧ other ≠ pid)

namespace Retokens

variable {op : Op}

theorem of_eq (enrolls : ∀ pid, ¬ op.Enrolls pid) (strikes : ∀ pid, ¬ op.Strikes b pid)
    (tokens : b'.registry.tokens = b.registry.tokens) : Retokens b op b' :=
  .alone enrolls strikes fun token pid => by rw [tokens]

/-- A request to open a channel enters the token of its caller, if that has an
id that can be one. -/
theorem of_open {caller : Identity} (asks : op.caller? = some caller)
    (enrolls : ∀ pid, op.Enrolls pid ↔ caller.pid = pid ∧ ¬ pid < 0)
    (strikes : ∀ pid, ¬ op.Strikes b pid)
    (tokens : b'.registry.tokens = if caller.pid < 0 then b.registry.tokens
      else b.registry.tokens.insert caller.token caller.pid) : Retokens b op b' := by
  split_ifs at tokens with hneg
  · refine .of_eq (fun pid henrolls => ?_) strikes tokens
    obtain ⟨rfl, hpos⟩ := (enrolls pid).1 henrolls
    exact hpos hneg
  · refine .opened asks (fun pid => (enrolls pid).trans ⟨And.left, ?_⟩) strikes tokens
    rintro rfl
    exact ⟨rfl, hneg⟩

theorem closeDataChannel (b : Broker) (caller : Identity) :
    Retokens b (.closeDataChannel caller) (b.closeDataChannel caller).2 := by
  rcases b.tokens_closeDataChannel caller with ⟨hok, htokens⟩ | ⟨hfailed, htokens⟩
  · exact .closed rfl (fun _ => id) (fun _ => and_iff_left hok) htokens
  · exact .of_eq (fun _ => id) (fun _ hstrikes => hfailed hstrikes.2) htokens

theorem clientDied (b : Broker) (token : Token) :
    Retokens b (.clientDied token) (b.clientDied token).2 := by
  have htokens := b.token_clientDied token
  cases hstands : b.registry.tokens.get? token with
  | none =>
    refine .of_eq (fun _ => id) (fun pid hstrikes => ?_) ?_
    · have hpid : b.registry.tokens.get? token = some pid := hstrikes
      rw [hstands] at hpid
      cases hpid
    · unfold Broker.clientDied Registry.dropToken
      rw [hstands]
  | some other =>
    have hdied : ∀ pid, Op.Strikes b (.clientDied token) pid ↔ other = pid := fun pid => by
      show b.registry.tokens.get? token = some pid ↔ other = pid
      rw [hstands, Option.some.injEq]
    refine .died (fun _ => id) hdied fun token' pid => ?_
    rw [htokens, hstands]
    refine and_congr_right fun hstands' => ⟨fun h heq => h.2 (congrArg some heq), fun hne => ?_⟩
    refine ⟨fun heq => ?_, fun heq => hne (Option.some.inj heq)⟩
    rw [heq, hstands] at hstands'
    exact hne (Option.some.inj hstands')

theorem poll (h : b.Orderly) (channel : ChannelId) :
    Retokens b (.poll channel) (b.poll channel) := by
  have htokens := token_poll h channel
  by_cases hkills : ∃ other, b.registry.channels.get? other = some channel ∧ b.HangsUp channel
  · obtain ⟨other, hcurrent, hup⟩ := hkills
    have howner : ∀ pid, b.registry.channels.get? pid = some channel ∧ b.HangsUp channel ↔
        other = pid := by
      refine fun pid => ⟨fun hpid => h.eq_of_current hpid.1 hcurrent, ?_⟩
      rintro rfl
      exact ⟨hcurrent, hup⟩
    refine .died (fun _ => id) howner fun token pid => ?_
    rw [htokens, howner]
  · have hnot : ∀ pid, ¬ (b.registry.channels.get? pid = some channel ∧ b.HangsUp channel) :=
      fun pid hpid => hkills ⟨pid, hpid⟩
    exact .alone (fun _ => id) hnot fun token pid =>
      (htokens token pid).trans (and_iff_left (hnot pid))

theorem unasked {op : Op} (hop : op.Unasked) (hpoll : ∀ id, op ≠ .poll id)
    (strikes : ∀ pid, ¬ op.Strikes b pid) (enrolls : ∀ pid, ¬ op.Enrolls pid) :
    Retokens b op (b.step op) :=
  .alone enrolls strikes fun token _ =>
    (spares_step hop fun id heq => absurd heq (hpoll id)).token token

end Retokens

/-- **What one operation does to the table of tokens.** -/
theorem Orderly.retokens (h : b.Orderly) (op : Op) : Retokens b op (b.step op) := by
  cases op with
  | enable caller s request =>
    exact .of_eq (fun _ => id) (fun _ => id) (b.enablesFor caller s request).tokens
  | disable caller s => exact .of_eq (fun _ => id) (fun _ => id) (b.disablesFor caller.pid s).tokens
  | disableFor pid s => exact .of_eq (fun _ => id) (fun _ => id) (b.disablesFor pid s).tokens
  | setMode caller s mode =>
    exact .of_eq (fun _ => id) (fun _ => id) (b.tokens_setMode caller s mode)
  | flush caller s => exact .of_eq (fun _ => id) (fun _ => id) (b.tokens_flush caller s)
  | openDataChannel caller =>
    exact .of_open rfl (fun _ => .rfl) (fun _ => id) (b.tokens_openDataChannel caller)
  | closeDataChannel caller => exact .closeDataChannel b caller
  | openSocketChannel caller =>
    exact .of_open rfl (fun _ => .rfl) (fun _ => id) (b.tokens_openSocketChannel caller)
  | closeSocketChannel caller =>
    exact .of_eq (fun _ => id) (fun _ => id) (b.tokens_closeSocketChannel caller)
  | suspend pid => exact .of_eq (fun _ => id) (fun _ => id) (b.tokens_suspend pid)
  | resume pid => exact .of_eq (fun _ => id) (fun _ => id) (b.tokens_resume pid)
  | resumeAll =>
    exact .of_eq (fun _ => id) (fun _ => id) (Suspension.kept_resumeEach _ b.suspension).tokens
  | inject s => exact .of_eq (fun _ => id) (fun _ => id) (b.tokens_inject s)
  | withdraw s => exact .of_eq (fun _ => id) (fun _ => id) (b.tokens_withdraw s)
  | listen caller => exact .of_eq (fun _ => id) (fun _ => id) (b.tokens_listen caller)
  | unlisten caller => exact .of_eq (fun _ => id) (fun _ => id) (b.tokens_unlisten caller)
  | processDeath other =>
    exact .died (fun _ => id) (fun _ => .rfl) fun token _ => b.token_processDeath other token
  | clientDied token => exact .clientDied b token
  | poll id => exact .poll h id
  | emit _ _ | dispatch | idle _ | atClient _ _ =>
    exact .unasked trivial nofun (fun _ => id) fun _ => id

section

variable {own : Pid → Token} {op : Op}

/-- **What one operation does to the token of a process**, where no two share
one. -/
theorem Retokens.stands_iff (h : Retokens b op b') (hown : Function.Injective own)
    (hsigned : op.Signed own) (pid : Pid) :
    b'.registry.tokens.get? (own pid) = some pid ↔
      op.Enrolls pid ∨ (b.registry.tokens.get? (own pid) = some pid ∧ ¬ op.Strikes b pid) := by
  cases h with
  | alone enrolls strikes tokens =>
    rw [tokens]
    simp [enrolls pid, strikes pid]
  | @opened caller asks enrolls strikes tokens =>
    rw [tokens, hsigned caller asks, enrolls]
    by_cases hpid : caller.pid = pid
    · subst hpid
      simp
    · have hne : own pid ≠ own caller.pid := fun heq => hpid (hown heq).symm
      simp [hpid, strikes pid, Table.get?_insert_of_ne _ _ hne]
  | @closed caller asks enrolls strikes tokens =>
    rw [tokens, hsigned caller asks, strikes]
    by_cases hpid : caller.pid = pid
    · subst hpid
      simp [enrolls]
    · have hne : own pid ≠ own caller.pid := fun heq => hpid (hown heq).symm
      simp [enrolls pid, hpid, Table.get?_erase_of_ne _ hne]
  | died enrolls strikes tokens =>
    rw [tokens, strikes]
    simp [enrolls pid]

/-- A token stands for nobody but its own process. -/
def Owned (own : Pid → Token) (b : Broker) : Prop :=
  ∀ token pid, b.registry.tokens.get? token = some pid → token = own pid

theorem Retokens.owned (h : Retokens b op b') (hsigned : op.Signed own) (howned : Owned own b) :
    Owned own b' := by
  intro token pid hstands
  cases h with
  | alone _ _ tokens => exact howned token pid ((tokens token pid).1 hstands)
  | @opened caller asks _ _ tokens =>
    rw [tokens, Table.get?_insert] at hstands
    split_ifs at hstands with htoken
    · rw [htoken, hsigned caller asks, Option.some.inj hstands]
    · exact howned token pid hstands
  | closed asks _ _ tokens =>
    rw [tokens, Table.get?_erase] at hstands
    split_ifs at hstands
    exact howned token pid hstands
  | died _ _ tokens => exact howned token pid ((tokens token pid).1 hstands).1

/-! ### Runs -/

/-- No operation of a run strikes out the token of a process. -/
def Unstruck (pid : Pid) : List Op → Broker → Prop
  | [], _ => True
  | op :: rest, b => ¬ op.Strikes b pid ∧ Unstruck pid rest (b.step op)

/-- The token of a process was entered in a run and has not been struck out
since. -/
def Enrolled (pid : Pid) (ops : List Op) (b : Broker) : Prop :=
  ∃ before op after, ops = before ++ op :: after ∧ op.Enrolls pid ∧
    Unstruck pid after (b.run (before ++ [op]))

theorem enrolled_cons {ops : List Op} :
    Enrolled pid (op :: ops) b ↔
      (op.Enrolls pid ∧ Unstruck pid ops (b.step op)) ∨ Enrolled pid ops (b.step op) := by
  constructor
  · rintro ⟨before, op', after, heq, henrolls, hunstruck⟩
    cases before with
    | nil =>
      cases heq
      exact .inl ⟨henrolls, hunstruck⟩
    | cons first before =>
      cases heq
      exact .inr ⟨before, op', after, rfl, henrolls, hunstruck⟩
  · rintro (⟨henrolls, hunstruck⟩ | ⟨before, op', after, rfl, henrolls, hunstruck⟩)
    · exact ⟨[], op, ops, rfl, henrolls, hunstruck⟩
    · exact ⟨op :: before, op', after, rfl, henrolls, hunstruck⟩

/-- **What a run does to the token of a process**: it stands for it if it did and
was not struck out, or was entered and not struck out since. -/
theorem stands_run_iff (hown : Function.Injective own) : ∀ {ops : List Op} {b : Broker},
    b.Orderly → (∀ op ∈ ops, op.Signed own) →
    ((b.run ops).registry.tokens.get? (own pid) = some pid ↔
      (b.registry.tokens.get? (own pid) = some pid ∧ Unstruck pid ops b) ∨ Enrolled pid ops b)
  | [], b, _, _ => by
    simp [run, Unstruck, Enrolled]
  | op :: rest, b, h, hsigned => by
    have hstep := (h.retokens op).stands_iff hown (hsigned op List.mem_cons_self) pid
    have hrest := stands_run_iff hown (h.step op) fun op' hop' =>
      hsigned op' (List.mem_cons_of_mem _ hop')
    rw [enrolled_cons]
    refine hrest.trans ?_
    rw [hstep, Unstruck]
    tauto

theorem owned_run : ∀ {ops : List Op} {b : Broker}, b.Orderly → (∀ op ∈ ops, op.Signed own) →
    Owned own b → Owned own (b.run ops)
  | [], _, _, _, howned => howned
  | op :: rest, b, h, hsigned, howned => by
    have hhead := (h.retokens op).owned (hsigned op List.mem_cons_self) howned
    have hrest : ∀ op' ∈ rest, op'.Signed own := fun op' hop' =>
      hsigned op' (List.mem_cons_of_mem _ hop')
    have hrun : Owned own ((b.step op).run rest) := owned_run (h.step op) hrest hhead
    exact hrun

end

/-! ### From the start -/

/-- The brokers that a start leads to. -/
inductive Started : Broker → Prop
  | intro {config : Config} {vendor : Device} {blueprint : Nat → Device} {rule : SocketRule}
    {watching : Bool} {b : Broker} (vendor_idle : vendor.IsIdle)
    (built_idle : ∀ n, (blueprint n).IsIdle)
    (started : (ofConfig config (.ofSettings config.hardware vendor blueprint) rule
      watching).start = (.ok (), b)) : Started b

theorem Started.reachable (h : b.Started) : b.Reachable := by
  cases h with
  | intro vendor_idle built_idle started => exact .start vendor_idle built_idle started

theorem Started.tokens (h : b.Started) : b.registry.tokens = ∅ := by
  cases h with
  | intro _ _ started =>
    obtain ⟨hw, -, rfl⟩ := start_ok started
    rfl

/-- Announcing the death of a process by a token that stands for it unwinds the
process. -/
theorem Orderly.clientDied_unwinds (h : b.Orderly) {token : Token}
    (hstands : b.registry.tokens.get? token = some pid) :
    (b.clientDied token).1.isSome = true ∧ (b.clientDied token).2.Unwound pid := by
  have hshift : Shift .dispatch b (b.setRegistry (b.registry.dropToken token).2) :=
    .forgetToken token
  have hforget := hshift.orderly h
  have hdied : b.clientDied token =
      (some ((b.setRegistry (b.registry.dropToken token).2).processDeath pid).1,
        ((b.setRegistry (b.registry.dropToken token).2).processDeath pid).2) := by
    unfold clientDied Registry.dropToken
    rw [hstands]
  rw [hdied]
  exact ⟨rfl, (hforget.dies_processDeath pid).unwound⟩

/-- **When the death of a process is heard of.** Let every process keep to one
token of its own in a run from the start. The token stands for its process
exactly if the process has opened a channel, and since then its data channel was
not closed at its request and it has not died. Then announcing the token unwinds
the process; else it does nothing. -/
theorem Started.heard_iff_enrolled (h : b.Started) {own : Pid → Token}
    (hown : Function.Injective own) {ops : List Op} (hsigned : ∀ op ∈ ops, op.Signed own)
    (pid : Pid) :
    ((b.run ops).registry.tokens.get? (own pid) = some pid ↔ Enrolled pid ops b) ∧
    (Enrolled pid ops b → ((b.run ops).clientDied (own pid)).1.isSome = true ∧
      ((b.run ops).clientDied (own pid)).2.Unwound pid) ∧
    (¬ Enrolled pid ops b → (b.run ops).clientDied (own pid) = (none, b.run ops)) := by
  have hempty := h.tokens
  have horderly := h.reachable.orderly
  have hstands : (b.run ops).registry.tokens.get? (own pid) = some pid ↔ Enrolled pid ops b := by
    rw [stands_run_iff hown horderly hsigned, hempty]
    exact or_iff_right fun hnone => nomatch hnone.1
  refine ⟨hstands, fun henrolled => ?_, fun hno => ?_⟩
  · exact (h.reachable.run ops).orderly.clientDied_unwinds (hstands.2 henrolled)
  · have howned : Owned own (b.run ops) := owned_run horderly hsigned fun token pid hpid => by
      rw [hempty] at hpid
      cases hpid
    -- the token stands for no other process either
    have hnone : (b.run ops).registry.tokens.get? (own pid) = none := by
      cases hother : (b.run ops).registry.tokens.get? (own pid) with
      | none => rfl
      | some other =>
        obtain rfl : pid = other := hown (howned _ _ hother)
        exact absurd (hstands.1 hother) hno
    unfold clientDied Registry.dropToken
    rw [hnone]

/-- A token for every process: its id. -/
def idToken (pid : Pid) : Token :=
  pid.toUInt32.toUInt64

theorem injective_idToken : Function.Injective idToken := by
  intro pid other h
  have hbits : pid.toUInt32 = other.toUInt32 := by
    have hnat := congrArg UInt64.toNat h
    simp only [idToken, UInt32.toNat_toUInt64] at hnat
    exact UInt32.toNat_inj.1 hnat
  cases pid
  cases other
  exact congrArg Int32.ofUInt32 hbits

theorem started_trial : trial.Started :=
  .intro ⟨rfl, rfl⟩ (fun _ => ⟨rfl, rfl⟩) (Prod.ext rfl rfl)

/-- A process opens a data channel and subscribes; announcing its death unwinds
it. -/
theorem heard_after_open :
    let ops : List Op := [.openDataChannel ⟨100, 1000, 100⟩,
      .enable ⟨100, 1000, 100⟩ .accelerometer ⟨1000000, 0⟩]
    (trial.run ops).registry.tokens.get? 100 = some 100 ∧
      ((trial.run ops).clientDied 100).2.Unwound 100 := by
  intro ops
  have hsigned : ∀ op ∈ ops, op.Signed idToken := by decide
  have henrolled : Enrolled 100 ops trial :=
    ⟨[], _, _, rfl, ⟨rfl, by decide⟩, id, trivial⟩
  obtain ⟨hstands, hheard, -⟩ :=
    started_trial.heard_iff_enrolled injective_idToken hsigned 100
  exact ⟨hstands.2 henrolled, (hheard henrolled).2⟩

/-- A process that has closed its data channel still subscribes and has a socket
channel, and announcing its death does nothing. -/
theorem unheard_after_close :
    let ops : List Op := [.openSocketChannel ⟨100, 1000, 100⟩, .openDataChannel ⟨100, 1000, 100⟩,
      .enable ⟨100, 1000, 100⟩ .accelerometer ⟨1000000, 0⟩, .closeDataChannel ⟨100, 1000, 100⟩]
    (∀ op ∈ ops, op.Signed idToken) ∧ (∀ op ∈ ops, ∀ b, ¬ op.Kills b 100) ∧
      (trial.run ops).registry.subscription 100 .accelerometer = some ⟨1000000, 0⟩ ∧
      (trial.run ops).directory.byPid.get? 100 = some 0 ∧
      (trial.run ops).registry.tokens.get? 100 = none ∧
      ((trial.run ops).clientDied 100).1.isNone = true ∧
      ((trial.run ops).clientDied 100).2.registry.subscription 100 .accelerometer
        = some ⟨1000000, 0⟩ := by
  intro ops
  refine ⟨by decide, fun op hop b hkills => ?_, by decide +kernel, by decide +kernel,
    by decide +kernel, by decide +kernel, by decide +kernel⟩
  simp only [ops, List.mem_cons, List.not_mem_nil, or_false] at hop
  rcases hop with rfl | rfl | rfl | rfl
  all_goals exact hkills

end Broker
end SensorBroker
