import EprBench.Bridge.Commands
import EprBench.Proofs.Acts
import EprBench.Proofs.Bench
import EprBench.Proofs.Decimal
import EprBench.Proofs.Line
import EprBench.Proofs.Names

/-! Where the rotary vane stands. Main statement: after each call that succeeds it stands where the calibration puts
the attenuation asked for, as long as no call failed after its packet was delivered. -/
namespace EprBench.Bridge

open Line Value List Outcome

/-! ### Packets -/

/-- The packet on its way, and the packets delivered. A packet is delivered once its reply is waited for. -/
def hear (w : List (List UInt8) × List (List UInt8)) : Event → List (List UInt8) × List (List UInt8)
  | .sendTo (.bytes packet) _ _ => ([packet], w.2)
  | .receive _ => ([], w.2 ++ w.1)
  | _ => w

def delivered (b : Bench) : List (List UInt8) := (b.log.toList.foldl hear ([], [])).2

def Sending (e : Event) : Prop := ∀ n, e ≠ .receive n

variable {b b' : Bench} {s : State}

lemma hear_of_sending {e : Event} (sending : Sending e) (w : List (List UInt8) × List (List UInt8)) : (hear w e).2 = w.2 := by
  fun_cases hear w e with
  | case1 => rfl
  | case2 n => exact absurd rfl (sending n)
  | case3 => rfl

lemma delivered_of_adds (adds : Adds Sending b b') : delivered b' = delivered b := by
  obtain ⟨es, log, sending⟩ := adds.log
  rw [delivered, delivered, log, foldl_append]
  generalize b.log.toList.foldl hear ([], []) = w
  clear log
  induction es generalizing w with
  | nil => rfl
  | cons e es ih =>
    rw [foldl_cons, ih (fun e' member => sending e' (mem_cons_of_mem e member)) (hear w e),
      hear_of_sending (sending e mem_cons_self)]

lemma noting_nextReply {P : Event → Prop} : Noting P Bench.nextReply := by
  refine .get_bind fun b => ?_
  split
  · exact .pure _
  · refine .bind (fun _ => Adds.of_log_eq rfl rfl) fun _ => ?_
    split
    · exact .pure _
    · exact .throw _

lemma carry_guarded {α : Type} (x : Work α) (b : Bench) : delivered (carry (Endpoint.guarded x) b).2 = delivered (carry x b).2 ∧
    ∀ e, (carry x b).1 = .error e → ∃ e', (carry (Endpoint.guarded x) b).1 = .error e' := by
  rw [Endpoint.guarded, carry_tryCatch]
  rcases carry x b with ⟨e | a, c⟩
  · dsimp only
    split
    · obtain ⟨c', stopped⟩ := carry_stop (α := α) "No Connection" c
      have noting : Noting Sending (Bench.stop "No Connection" : Work α) := Noting.stop fun _ wrong => by cases wrong
      exact ⟨delivered_of_adds (noting c), fun _ _ => ⟨.stopped, by rw [stopped]⟩⟩
    · exact ⟨rfl, fun _ _ => ⟨e, rfl⟩⟩
  · exact ⟨rfl, fun _ wrong => by cases wrong⟩

lemma delivered_received {e : Endpoint} {packet : List UInt8} (n : ℤ)
    (log : b'.log.toList = b.log.toList ++ [e.opened, e.sent (.bytes packet)]) :
    delivered (b'.noted (.receive n)) = delivered b ++ [packet] := by
  rw [delivered, Bench.noted, Array.toList_push, log, foldl_append, foldl_append, delivered]
  rfl

lemma deliver_cases (e : Endpoint) (packet : Value) (b : Bench) :
    (∃ f b', carry (e.deliver packet) b = (.error f, b') ∧ Adds Sending b b') ∨
    ∃ b', carry (e.deliver packet) b = (.ok (), b') ∧ b'.log.toList = b.log.toList ++ [e.opened, e.sent packet] := by
  have steps : e.deliver packet = Bench.opening e.opened >>= fun _ => Bench.writing (e.sent packet) := rfl
  have log : ((b.noted e.opened).written (e.sent packet)).log.toList = b.log.toList ++ [e.opened, e.sent packet] := by
    simp [Bench.written, Bench.noted]
  rw [steps, carry_bind, Bench.carry_opening_eq]
  cases b.openFault with
  | some f => exact .inl ⟨f, _, rfl, Noting.note (e := e.opened) (by rintro _ ⟨⟩) b⟩
  | none =>
    dsimp only [Option.elim_none]
    rw [Bench.carry_writing_eq]
    cases (b.noted e.opened).writeFaults.lookup ((b.noted e.opened).writes + 1) with
    | some f =>
      have sending : ∀ ev ∈ [e.opened, e.sent packet], Sending ev :=
        forall_mem_cons.mpr ⟨by rintro _ ⟨⟩, forall_mem_singleton.mpr (by rintro _ ⟨⟩)⟩
      exact .inl ⟨f, _, rfl, rfl, _, log, sending⟩
    | none => exact .inr ⟨_, rfl, log⟩

lemma guarded_cases {α : Type} (e : Endpoint) (packet : List UInt8) {k : Unit → Work α} (b : Bench)
    (waits : ∀ c, ∃ n, Adds Sending (c.noted (.receive n)) (carry (k ()) c).2) :
    (∃ f, (carry (Endpoint.guarded (e.deliver (.bytes packet) >>= k)) b).1 = .error f) ∧
      delivered (carry (Endpoint.guarded (e.deliver (.bytes packet) >>= k)) b).2 = delivered b ∨
    delivered (carry (Endpoint.guarded (e.deliver (.bytes packet) >>= k)) b).2 = delivered b ++ [packet] := by
  obtain ⟨same, failing⟩ := carry_guarded (e.deliver (.bytes packet) >>= k) b
  rw [same]
  rcases deliver_cases e (.bytes packet) b with ⟨f, c, failed, sending⟩ | ⟨c, done, log⟩
  · have whole : carry (e.deliver (.bytes packet) >>= k) b = (.error f, c) := by
      rw [carry_bind, failed]
    rw [whole] at failing ⊢
    exact .inl ⟨failing f rfl, delivered_of_adds sending⟩
  · obtain ⟨n, waiting⟩ := waits c
    have whole : carry (e.deliver (.bytes packet) >>= k) b = carry (k ()) c := by
      rw [carry_bind, done]
    rw [whole, delivered_of_adds waiting, delivered_received n log]
    exact .inr rfl

lemma exchange_cases (packet : List UInt8) (count : ℕ) (s : State) (b : Bench) :
    ∃ r b', perform (exchange packet count) s b = ((r, s), b') ∧
      ((∃ e, r = .error e) ∧ delivered b' = delivered b ∨ delivered b' = delivered b ++ [packet]) := by
  rw [exchange, perform_get_bind, perform_work, Endpoint.ask]
  exact ⟨_, _, rfl, guarded_cases s.endpoint packet b fun c =>
    ⟨count, (noting_nextReply.bind fun _ => .pure _) (c.noted (.receive count))⟩⟩

namespace Vane

/-! ### The vane -/

/-- The number that a word stands for. -/
def stepsOf (word : List UInt8) : ℤ :=
  let w : ℤ := word.foldl (fun n byte => 256 * n + byte.toNat) 0
  if w < 32768 then w else w - 65536

/-- A calibration that knows both limits. -/
structure Calibration where
  place : Number → Outcome ℤ
  top : ℤ
  bottom : ℤ
  full : place (.int 60) = .ok top
  none : place (.int 0) = .ok bottom

namespace Calibration

variable (c : Calibration)

/-- Where the vane goes from a position. -/
def moved (position : ℤ) (packet : List UInt8) : ℤ :=
  if packet.take 4 = [0x0e, 4, 1, 2] then position + stepsOf (packet.drop 4)
  else if packet = [0x0e, 4, 1, 1, 0, 3] then c.top
  else if packet = [0x0e, 4, 1, 1, 0, 2] then c.bottom
  else position

/-- Where the vane stands, from its upper limit on. -/
def position (b : Bench) : ℤ := (delivered b).foldl c.moved c.top

end Calibration

lemma foldl_bytes {w : ℕ} (small : w < 65536) :
    [(w / 256).toUInt8, (w % 256).toUInt8].foldl (fun n byte => 256 * n + (byte.toNat : ℤ)) 0 = w := by
  have high : (w / 256).toUInt8.toNat = w / 256 := by
    rw [Nat.toUInt8_eq, UInt8.toNat_ofNat', Nat.mod_eq_of_lt (by omega)]
  have low : (w % 256).toUInt8.toNat = w % 256 := by
    rw [Nat.toUInt8_eq, UInt8.toNat_ofNat', Nat.mod_eq_of_lt (by omega)]
  rw [foldl_cons, foldl_cons, foldl_nil, high, low]
  omega

lemma stepsOf_signedWord {n : ℤ} {word : List UInt8} (fits : signedWord n = .ok word) : stepsOf word = n := by
  rw [signedWord] at fits
  split_ifs at fits with range
  have bounds : -32768 ≤ n ∧ n ≤ 32767 := by simpa using range
  rw [stepsOf, ← Except.ok.inj fits, foldl_bytes (by omega)]
  split_ifs
  · omega
  · omega

variable {c : Calibration} {b₀ : Bench} {α β : Type}

lemma position_of_delivered (same : delivered b' = delivered b) : c.position b' = c.position b := by
  rw [Calibration.position, Calibration.position, same]

lemma position_of_more {packet : List UInt8} (more : delivered b' = delivered b ++ [packet]) :
    c.position b' = c.moved (c.position b) packet := by
  rw [Calibration.position, Calibration.position, more, foldl_append, foldl_cons, foldl_nil]

structure Tracks (c : Calibration) (s : State) (b : Bench) : Prop where
  live : s.mode = .live
  stands : c.place s.vane.reached = .ok (c.position b)

lemma Tracks.of_delivered (tracks : Tracks c s b) (same : delivered b' = delivered b) : Tracks c s b' :=
  ⟨tracks.live, by rw [tracks.stands, position_of_delivered same]⟩

/-- The vane is still known to stand there after an act, unless this failed and delivered something since `b₀`. -/
def Follows (c : Calibration) (b₀ : Bench) (x : Act State α) (s : State) (b : Bench) : Prop :=
  (∀ e, (perform x s b).1.1 = .error e → delivered (perform x s b).2 = delivered b₀) →
    Tracks c (perform x s b).1.2 (perform x s b).2

namespace Follows

variable {x : Act State α} {f : α → Act State β}

lemma pure {a : α} (tracks : Tracks c s b) : Follows c b₀ (pure a : Act State α) s b := fun _ => tracks

lemma lift_bind {y : Outcome α} (tracks : Tracks c s b)
    (later : ∀ a, y = .ok a → Follows c b₀ (f a) s b) : Follows c b₀ (liftM y >>= f) s b := by
  rw [Follows, perform_bind, perform_lift]
  cases known : y with
  | error e => exact fun _ => tracks
  | ok a => exact later a known

lemma work {y : Work α} (noting : Noting Sending y) (tracks : Tracks c s b) :
    Follows c b₀ (liftM y : Act State α) s b := fun _ => tracks.of_delivered (delivered_of_adds (noting b))

lemma work_bind {y : Work α} (noting : Noting Sending y) (tracks : Tracks c s b)
    (later : ∀ a b', delivered b' = delivered b → Follows c b₀ (f a) s b') : Follows c b₀ (liftM y >>= f) s b := by
  have same := delivered_of_adds (noting b)
  rw [Follows, perform_bind, perform_work]
  revert same
  rcases carry y b with ⟨e | a, b'⟩ <;> intro same
  · exact fun _ => tracks.of_delivered same
  · exact later a b' same

lemma remark_bind {p : Prop} [Decidable p] {text : String} {f : Unit → Act State β} (tracks : Tracks c s b)
    (later : ∀ b', delivered b' = delivered b → Follows c b₀ (f ()) s b') :
    Follows c b₀ (if p then liftM (Bench.message text) >>= f else f ()) s b := by
  split
  · exact work_bind (Noting.message fun _ => by simp) tracks fun _ => later
  · exact later b rfl

lemma bind_pure {a : β} (first : Follows c b₀ x s b) : Follows c b₀ (x >>= fun _ => Pure.pure a) s b := by
  rw [Follows, perform_bind]
  rw [Follows] at first
  revert first
  rcases perform x s b with ⟨⟨e | a, s'⟩, b'⟩
  · exact fun first kept => first fun e' same => kept e' (congrArg Except.error (Except.error.inj same))
  · exact fun first _ => first (by simp)

lemma settle_bind {f : Unit → Act State β} (later : ∀ b', delivered b' = delivered b → Follows c b₀ (f ()) s b') :
    Follows c b₀ (settle >>= f) s b := by
  rw [Follows, settle, bind_assoc, perform_get_bind]
  split
  · exact later _ (delivered_of_adds (Noting.note (fun _ => by simp) b))
  · exact later b rfl

lemma exchange_bind {packet : List UInt8} {count : ℕ} {f : List UInt8 → Act State β} (same : delivered b = delivered b₀)
    (tracks : Tracks c s b)
    (later : ∀ reply b', delivered b' = delivered b ++ [packet] → Follows c b₀ (f reply) s b') :
    Follows c b₀ (exchange packet count >>= f) s b := by
  obtain ⟨r, b', ran, what⟩ := exchange_cases packet count s b
  rw [Follows, perform_bind, ran]
  rcases r with e | reply
  · exact fun kept => tracks.of_delivered ((kept e rfl).trans same.symm)
  · rcases what with ⟨⟨e, failed⟩, -⟩ | more
    · simp at failed
    · exact later reply b' more

end Follows

/-! ### Moves -/

lemma way_eq_ok {start stop : Number} {n : ℤ} : way c.place start stop = .ok n ↔
    ∃ target origin, c.place stop = .ok target ∧ c.place start = .ok origin ∧ target - origin = n := by
  simp only [way, bind_eq_ok, pure_eq_ok, exists_and_left]

lemma perform_runFor (n : ℤ) (s : State) (b : Bench) : ∃ b', delivered b' = delivered b ∧
    perform (runFor n) s b = ((.ok (), { s with vane := { s.vane with moves := true, reached := s.vane.wanted } }), b') := by
  have noting : Noting Sending (do Bench.note .startThread; Bench.sleep (Decimal.ofInt n / 1000)) :=
    (Noting.note fun _ => by simp).bind fun _ => .note fun _ => by simp
  exact ⟨_, delivered_of_adds (noting b), rfl⟩

lemma moved_steps (p : ℤ) (word : List UInt8) : c.moved p ([0x0e, 4, 1, 2] ++ word) = p + stepsOf word := if_pos rfl

lemma follows_moveTo (x : Float) (tracks : Tracks c s b) : Follows c b (moveTo c.place x) s b := by
  rw [Follows, moveTo, remember, perform_modify_bind, perform_get_bind]
  have tracks₁ : Tracks c { s with vane := { s.vane with wanted := .float (Decimal.roundPlaces x 1) } } b :=
    ⟨tracks.live, tracks.stands⟩
  refine Follows.lift_bind tracks₁ fun n measured => Follows.settle_bind fun b₁ same => ?_
  refine Follows.lift_bind (tracks₁.of_delivered same) fun word fits => ?_
  refine Follows.exchange_bind same (tracks₁.of_delivered same) fun _ b₂ more _ => ?_
  obtain ⟨b₃, same₃, run⟩ := perform_runFor (travelTime n)
    { s with vane := { s.vane with wanted := .float (Decimal.roundPlaces x 1) } } b₂
  rw [run]
  obtain ⟨target, origin, stop, start, rfl⟩ := way_eq_ok.mp measured
  have here : origin = c.position b := Except.ok.inj (start.symm.trans tracks.stands)
  refine ⟨tracks.live, stop.trans ?_⟩
  rw [position_of_delivered same₃, position_of_more more, position_of_delivered same, moved_steps, stepsOf_signedWord fits, here,
    add_sub_cancel]

variable {limit : ℤ} {code : UInt8}

lemma limitCode_eq_some : limitCode limit = some code ↔ limit = 60 ∧ code = 3 ∨ limit = 0 ∧ code = 2 := by
  fun_cases limitCode limit with
  | case1 => simp [eq_comm]
  | case2 => simp [eq_comm]
  | case3 => simp_all

lemma place_of_limit
    (coded : limitCode limit = some code) (p : ℤ) : c.place (.int limit) = .ok (c.moved p [0x0e, 4, 1, 1, 0, code]) := by
  rcases limitCode_eq_some.mp coded with ⟨rfl, rfl⟩ | ⟨rfl, rfl⟩
  · exact c.full
  · exact c.none

lemma follows_moveToEnd
    (coded : limitCode limit = some code) (wanted : s.vane.wanted = .int limit) (same : delivered b = delivered b₀)
    (tracks : Tracks c s b) : Follows c b₀ (moveToEnd c.place code) s b := by
  have target := place_of_limit (c := c) coded (c.position b)
  refine Follows.settle_bind fun b₁ same₁ => ?_
  refine Follows.exchange_bind (same₁.trans same) (tracks.of_delivered same₁) fun _ b₂ more _ => ?_
  have measured : way c.place s.vane.reached s.vane.wanted = .ok _ :=
    way_eq_ok.mpr ⟨_, _, wanted ▸ target, tracks.stands, rfl⟩
  rw [perform_get_bind, perform_bind, perform_lift, measured, proceed_ok, perform_bind]
  obtain ⟨b₃, same₃, run⟩ := perform_runFor _ s b₂
  rw [run, proceed_ok, remember, perform_modify]
  refine ⟨tracks.live, (congrArg c.place wanted).trans (target.trans ?_)⟩
  rw [position_of_delivered same₃, position_of_more more, position_of_delivered same₁]

lemma follows_moveToLimit (x : Float) (tracks : Tracks c s b) : Follows c b (moveToLimit c.place x) s b := by
  unfold moveToLimit
  refine Follows.lift_bind tracks fun limit _ => ?_
  rw [Follows, remember, perform_modify_bind]
  have tracks₁ : Tracks c { s with vane := { s.vane with wanted := .int limit } } b := ⟨tracks.live, tracks.stands⟩
  refine Follows.lift_bind tracks₁ fun whole _ => ?_
  cases coded : limitCode limit with
  | some code => exact Follows.remark_bind tracks₁ fun b₁ same => follows_moveToEnd coded rfl same (tracks₁.of_delivered same)
  | none => exact Follows.remark_bind tracks₁ fun b₁ same => Follows.pure (tracks₁.of_delivered same)

lemma follows_take (v mode : Value) (tracks : Tracks c s b) : Follows c b (take c.place v mode) s b := by
  unfold take
  refine Follows.lift_bind tracks fun arbitrary _ => ?_
  split
  · exact Follows.lift_bind tracks fun x _ => follows_moveTo x tracks
  · refine Follows.lift_bind tracks fun limit _ => ?_
    split
    · exact Follows.lift_bind tracks fun x _ => follows_moveToLimit x tracks
    · exact Follows.work (Noting.stop fun _ => by simp) tracks

/-! ### Sessions -/

lemma perform_isLive_bind (f : Bool → Act State α) (s : State) (b : Bench) :
    perform (isLive >>= f) s b = perform (f (s.mode == .live)) s b := rfl

lemma follows_call (r : Request) (tracks : Tracks c s b) : Follows c b ((command c.place).call r) s b := by
  refine Follows.lift_bind tracks fun g _ => ?_
  unfold command
  dsimp only
  split
  · rw [Follows, perform_isLive_bind, tracks.live]
    exact (follows_take _ _ tracks).bind_pure
  · rw [Follows, perform_isLive_bind, tracks.live]
    exact Follows.pure tracks
  · exact Follows.pure tracks

/-- Memory and bench after one more call, whether it succeeds or not. -/
def next (c : Calibration) (u : State × Bench) (r : Request) : State × Bench :=
  ((perform ((command c.place).call r) u.1 u.2).1.2, (perform ((command c.place).call r) u.1 u.2).2)

/-- Each call that fails does so before its packet is delivered. -/
def Kept (c : Calibration) : List Request → State × Bench → Prop
  | [], _ => True
  | r :: rs, u => (∀ e, answer ((command c.place).call r) u.1 u.2 = .error e → delivered (next c u r).2 = delivered u.2) ∧
      Kept c rs (next c u r)

lemma tracks_session {rs : List Request} {u : State × Bench} (kept : Kept c rs u) (tracks : Tracks c u.1 u.2) :
    Tracks c (rs.foldl (next c) u).1 (rs.foldl (next c) u).2 := by
  induction rs generalizing u with
  | nil => exact tracks
  | cons r rs ih => exact ih kept.2 (follows_call r tracks kept.1)

/-! ### What a call reaches -/

variable {x : Float}

lemma limit_of_range (rounds : nearestLimit x = .ok limit) (low : 0 ≤ limit) (high : limit ≤ 60) :
    limit = 0 ∨ limit = 60 := by
  rw [nearestLimit] at rounds
  obtain ⟨k, -, rounds⟩ := bind_eq_ok.mp rounds
  have whole : Decimal.truncate? (Decimal.ofInt (60 * k)) = some limit := by
    rw [truncated] at rounds
    split at rounds
    · rename_i n found
      rw [found, Except.ok.inj rounds]
    · split at rounds <;> simp at rounds
  rcases lt_or_ge (60 * k).natAbs (2 ^ 53) with small | large
  · rw [Decimal.truncate?_ofInt small, Option.some.injEq] at whole
    omega
  · have finite : Decimal.isFinite (Decimal.ofInt (60 * k)) = true := by
      rw [Decimal.truncate?] at whole
      rw [Decimal.isFinite]
      split at whole <;> simp_all
    obtain ⟨m, bound, found⟩ := Decimal.truncate?_ofInt_large large finite
    rw [found, Option.some.injEq] at whole
    split_ifs at whole <;> omega

lemma memory_work (x : Work α) (s : State) : Ensures (fun _ => True) (fun _ s' => s' = s) (liftM x : Act State α) s :=
  .of_within (.work x) (fun _ _ _ _ => trivial) fun _ _ _ _ same => same

lemma memory_exchange (packet : List UInt8) (count : ℕ) (s : State) :
    Ensures (fun _ => True) (fun _ s' => s' = s) (exchange packet count) s :=
  .get_bind (memory_work _ s)

lemma memory_settle (s : State) : Ensures (fun _ => True) (fun _ s' => s' = s) settle s :=
  .get_bind (.ite (fun _ => memory_work _ s) fun _ => .pure trivial rfl)

lemma reaches_runFor (n : ℤ) (s : State) :
    Ensures (fun _ => True) (fun _ s' => s'.vane.reached = s.vane.wanted) (runFor n) s := by
  intro b
  obtain ⟨b', -, run⟩ := perform_runFor n s b
  rw [run]
  exact ⟨trivial, fun _ _ => rfl⟩

lemma reaches_moveTo (x : Float) (s : State) :
    Ensures (fun _ => True) (fun _ s' => s'.vane.reached = .float (Decimal.roundPlaces x 1)) (moveTo c.place x) s := by
  refine .modify_bind (Ensures.get_bind (Ensures.lift_bind trivial fun n _ => ?_))
  refine (memory_settle _).bind fun _ s₁ kept => .lift_bind trivial fun word _ => ?_
  refine (memory_exchange _ _ _).bind fun _ s₂ kept₂ => ?_
  rw [kept₂, kept]
  exact reaches_runFor _ _

lemma reaches_moveToLimit (rounds : nearestLimit (Decimal.roundPlaces x 1) = .ok limit)
    (coded : limitCode limit = some code) (s : State) :
    Ensures (fun _ => True) (fun _ s' => s'.vane.reached = .int limit) (moveToLimit c.place x) s := by
  have last {s₁ : State} (wanted : s₁.vane.wanted = .int limit) :
      Ensures (fun _ => True) (fun _ s' => s'.vane.reached = .int limit) (moveToEnd c.place code) s₁ := by
    refine (memory_settle _).bind fun _ s₂ kept => (memory_exchange _ _ _).bind fun _ s₃ kept₃ => .get_bind ?_
    refine .lift_bind trivial fun n _ => (reaches_runFor _ _).bind fun _ s₄ reached => ?_
    refine .modify trivial ?_
    rw [kept₃, kept, wanted] at reached
    exact reached
  unfold moveToLimit
  refine .lift_bind trivial fun l same => ?_
  obtain rfl : limit = l := Except.ok.inj (rounds.symm.trans same)
  refine .modify_bind (Ensures.lift_bind trivial fun n _ => ?_)
  rw [coded]
  dsimp only
  split
  · refine (memory_work _ _).bind fun _ s₁ kept => ?_
    rw [kept]
    exact last rfl
  · exact last rfl

/-- An attenuation asked for in one of the two ways. -/
def request (v : Value) (limit : Bool) : Request :=
  { name := "mw_bridge_rotary_vane", values := [v], named := if limit then [("mode", "Limit")] else [] }

/-- The attenuation that is meant: a tenth of a decibel, or one of the limits. -/
def meant (x : Float) (limit : Bool) : Outcome Number :=
  if limit then return .int (← nearestLimit (Decimal.roundPlaces x 1)) else return .float (Decimal.roundPlaces x 1)

lemma call_request (v : Value) (limit : Bool) : (command c.place).call (request v limit) = (do
    if ← isLive then take c.place v (if limit then "Limit" else "Arbitrary") else check v (if limit then "Limit" else "Arbitrary")
    return .nothing) := by
  cases limit <;> rfl

lemma meant_of_accepted {v u : Value} {limit : Bool} (rehearsed : s.mode = .rehearsal)
    (accepted : answer ((command c.place).call (request v limit)) s b = .ok u) :
    ∃ x a, v.toReal = .ok x ∧ meant x limit = .ok a ∧ (limit = true → a = .int 0 ∨ a = .int 60) := by
  rw [call_request, answer, perform_isLive_bind, rehearsed, if_neg (by decide)] at accepted
  obtain ⟨_, _, _, checked, -⟩ := perform_bind_ok.mp (perform_of_answer accepted)
  have ends : Ends (fun _ _ => ∃ x a, v.toReal = .ok x ∧ meant x limit = .ok a ∧ (limit = true → a = .int 0 ∨ a = .int 60))
      (check v (if limit then "Limit" else "Arbitrary")) s := by
    refine .lift_bind fun _ _ => .lift_bind fun _ _ => .lift_bind fun x real => ?_
    refine .lift_bind fun chosen asked => ?_
    cases limit with
    | false =>
      split
      · exact .lift_bind fun _ _ => .lift fun _ _ => ⟨x, _, real, rfl, nofun⟩
      · exact .lift fun _ _ => ⟨x, _, real, rfl, nofun⟩
    | true =>
      obtain rfl : ("Limit" == "Limit") = chosen := Except.ok.inj ((equals_text _ _).symm.trans asked)
      rw [if_pos (by decide)]
      refine .lift_bind fun l rounds => .lift fun _ ranged => ⟨x, .int l, real, ?_, fun _ => ?_⟩
      · rw [meant, if_pos rfl, rounds]
        rfl
      · have range : 0 ≤ l ∧ l ≤ 60 := by simpa using ranged
        exact (limit_of_range rounds range.1 range.2).imp (congrArg _) (congrArg _)
  exact (ends checked).2

lemma reaches_call {v : Value} {limit : Bool} {a : Number} (real : v.toReal = .ok x) (meaning : meant x limit = .ok a)
    (limits : limit = true → a = .int 0 ∨ a = .int 60) (live : s.mode = .live) :
    Ensures (fun _ => True) (fun _ s' => s'.vane.reached = a) ((command c.place).call (request v limit)) s := by
  have reaches : Ensures (fun _ => True) (fun _ s' => s'.vane.reached = a)
      (take c.place v (if limit then "Limit" else "Arbitrary")) s := by
    unfold take
    cases limit with
    | false =>
      obtain rfl : Number.float (Decimal.roundPlaces x 1) = a := Except.ok.inj meaning
      rw [if_neg (by decide), equals_text, lift_ok_bind, if_pos (by decide), real, lift_ok_bind]
      exact reaches_moveTo x s
    | true =>
      obtain ⟨l, rounds, rfl⟩ : ∃ l, nearestLimit (Decimal.roundPlaces x 1) = .ok l ∧ Number.int l = a := by
        rw [meant, if_pos rfl] at meaning
        obtain ⟨l, rounds, same⟩ := bind_eq_ok.mp meaning
        exact ⟨l, rounds, Except.ok.inj same⟩
      obtain ⟨code, coded⟩ : ∃ code, limitCode l = some code := by
        rcases limits rfl with same | same <;> cases same
        · exact ⟨2, rfl⟩
        · exact ⟨3, rfl⟩
      rw [if_pos rfl, equals_text, lift_ok_bind, if_neg (by decide), equals_text, lift_ok_bind, if_pos (by decide),
        real, lift_ok_bind]
      exact reaches_moveToLimit rounds coded s
  have whole : Ensures (fun _ => True) (fun _ s' => s'.vane.reached = a)
      (take c.place v (if limit then "Limit" else "Arbitrary") >>= fun _ => pure Value.nothing) s :=
    reaches.bind fun _ _ reached => .pure trivial reached
  rw [call_request]
  intro b
  rw [perform_isLive_bind, live, if_pos (by decide)]
  exact whole b

/-- **No drift.** From the upper limit on, after whatever calls came before, as long as each one that failed did so before its
packet was delivered: a call that the checks of a rehearsal accept and that succeeds leaves the vane where the calibration
puts the attenuation that is meant. -/
theorem vane_stands_as_meant (live : s.mode = .live)
    (fresh : s.vane = {}) (idle : delivered b = []) {rs : List Request} (kept : Kept c rs (s, b)) {v u u' : Value}
    {limit : Bool} {s₀ : State} (rehearsed : s₀.mode = .rehearsal)
    (accepted : answer ((command c.place).call (request v limit)) s₀ b₀ = .ok u)
    (done : answer ((command c.place).call (request v limit)) (rs.foldl (next c) (s, b)).1
      (rs.foldl (next c) (s, b)).2 = .ok u') :
    ∃ x a, v.toReal = .ok x ∧ meant x limit = .ok a ∧ (limit = true → a = .int 0 ∨ a = .int 60) ∧
      (next c (rs.foldl (next c) (s, b)) (request v limit)).1.vane.reached = a ∧
      c.place a = .ok (c.position (next c (rs.foldl (next c) (s, b)) (request v limit)).2) := by
  have start : Tracks c s b := by
    refine ⟨live, ?_⟩
    rw [fresh, Calibration.position, idle, foldl_nil]
    exact c.full
  have before := tracks_session kept start
  generalize rs.foldl (next c) (s, b) = t at before done
  have after : Tracks c (next c t (request v limit)).1 (next c t (request v limit)).2 :=
    follows_call _ before fun e failed => by
      rw [answer, failed] at done
      simp at done
  obtain ⟨x, a, real, meaning, limits⟩ := meant_of_accepted rehearsed accepted
  have reached := (reaches_call real meaning limits before.live t.2).2 u' done
  exact ⟨x, a, real, meaning, limits, reached, reached ▸ after.stands⟩

def wholeDecibels : Number → Outcome ℤ
  | .int n => .ok n
  | .float x => truncated x

/-- A calibration with one step for each decibel. -/
def decibels : Calibration := ⟨wholeDecibels, 60, 0, rfl, rfl⟩

def ready (mode : Mode) : State := ⟨mode, ⟨"192.168.2.22", 20001⟩, 1000, 20000, {}⟩

def shaky : Bench := { writeFaults := [(2, .wrongType)] }

def earlier : List Request := [request (.int 0) true, request (.float 12.3) false]

theorem vane_stands_at_20_dB : Kept decibels earlier (ready .live, shaky) ∧ ∃ x a, (Value.float 20.04).toReal = .ok x ∧
    meant x false = .ok a ∧ decibels.place a = .ok 20 := by
  have first : (answer ((command decibels.place).call (request (.int 0) true))
    (ready .live) shaky).isOk = true := by decide +kernel
  have kept : Kept decibels earlier (ready .live, shaky) := by
    refine ⟨fun e failed => ?_, fun _ _ => by decide +kernel, trivial⟩
    dsimp only at failed
    rw [failed] at first
    cases first
  obtain ⟨u, accepted⟩ := exists_of_isOk
    (x := answer ((command decibels.place).call (request (.float 20.04) false)) (ready .rehearsal) {}) (by decide +kernel)
  obtain ⟨u', done⟩ := exists_of_isOk (x := answer ((command decibels.place).call (request (.float 20.04) false))
    (earlier.foldl (next decibels) (ready .live, shaky)).1 (earlier.foldl (next decibels) (ready .live, shaky)).2)
      (by decide +kernel)
  have standing : decibels.position (next decibels (earlier.foldl (next decibels) (ready .live, shaky))
    (request (.float 20.04) false)).2 =
      20 := by decide +kernel
  obtain ⟨x, a, real, meaning, -, -, place⟩ := vane_stands_as_meant rfl rfl rfl kept rfl accepted done
  exact ⟨kept, x, a, real, meaning, standing ▸ place⟩

end Vane

end EprBench.Bridge
