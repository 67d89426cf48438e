import EprBench.Proofs.Bench
import EprBench.Proofs.Magnet.Orders

/-! What goes over the line to the field controller: the lines that set the field are just those of the orders. -/
namespace EprBench.Magnet

open Quantity List

def isOrderLine (s : String) : Bool := [['C', 'F'], ['S', 'W'], ['S', 'S']].contains (s.toList.take 2)

def orderLine? : Event → Option String
  | .write (.text s) => if isOrderLine s then some s else none
  | _ => none

def orderLines (b : Bench) : List String := b.log.toList.filterMap orderLine?

def SetsNothing (e : Event) : Prop := orderLine? e = none

lemma orderLines_of_adds {b b' : Bench} (adds : Adds SetsNothing b b') : orderLines b' = orderLines b :=
  adds.filterMap_log

def lineOf (line : Line.Parameters) (o : Order ℚ) : String := Controller.Order.text o ++ line.writeEnd

/-- The lines are those of the orders, the last first, each of them once or twice. -/
def OnWire (line : Line.Parameters) : List (Order ℚ) → List String → Prop
  | [], ls => ls = []
  | o :: os, ls => ∃ before n, OnWire line os before ∧ 1 ≤ n ∧ n ≤ 2 ∧ ls = before ++ List.replicate n (lineOf line o)

lemma isOrderLine_lineOf (line : Line.Parameters) (o : Order ℚ) : isOrderLine (lineOf line o) = true := by
  cases o with
  | width x => simp [isOrderLine, lineOf, Controller.Order.text, String.toList_append]
  | centre x => simp [isOrderLine, lineOf, Controller.Order.text, String.toList_append]
  | address a => simp [isOrderLine, lineOf, Controller.Order.text, String.toList_append]

namespace Controller

set_option synthInstance.maxSize 1000000

/-- The orders that are sent go over the line, and nothing else that sets something does. Those before them are kept. -/
structure Tells (u v : Controller ℚ × Bench) : Prop where
  line : v.1.line = u.1.line
  connected : v.1.connected = u.1.connected
  earlier : u.1.orders <:+ v.1.orders
  told : u.1.connected = some true → OnWire u.1.line u.1.orders (orderLines u.2) →
    OnWire v.1.line v.1.orders (orderLines v.2)

instance : IsPreorder (Controller ℚ × Bench) Tells where
  refl _ := ⟨rfl, rfl, suffix_rfl, fun _ => id⟩
  trans _ _ _ first second := ⟨second.line.trans first.line, second.connected.trans first.connected,
    first.earlier.trans second.earlier, fun open' wire => second.told (first.connected.trans open') (first.told open' wire)⟩

variable {c : Controller ℚ} {α : Type}

lemma tells_work {x : Work α} (silent : Noting SetsNothing x) : Obeys Tells (liftM x : Act (Controller ℚ) α) := by
  refine ⟨fun c b => ?_⟩
  rw [perform_work]
  refine ⟨rfl, rfl, suffix_rfl, fun _ wire => ?_⟩
  rw [orderLines_of_adds (silent b)]
  exact wire

instance tells_note (f : Controller ℚ → Controller ℚ) [line : ∀ c, Untouched (f c).line c.line]
    [connected : ∀ c, Untouched (f c).connected c.connected] [orders : ∀ c, Untouched (f c).orders c.orders] :
    Obeys Tells (modify f : Act (Controller ℚ) PUnit) := by
  refine ⟨fun c => .modify fun _ => ⟨(line c).eq, (connected c).eq, (orders c).eq ▸ suffix_rfl, fun _ wire => ?_⟩⟩
  rw [(line c).eq, (orders c).eq]
  exact wire

instance tells_message (text : String) : Obeys Tells (liftM (Bench.message text) : Act (Controller ℚ) Unit) :=
  tells_work (Noting.message rfl)

instance tells_stop (text : String) : Obeys Tells (liftM (Bench.stop text : Work α) : Act (Controller ℚ) α) :=
  tells_work (Noting.stop rfl)

instance tells_print (text : String) : Obeys Tells (liftM (Bench.print text) : Act (Controller ℚ) Unit) :=
  tells_work fun _ => Adds.of_log_eq rfl rfl

lemma silent_writing {e : Event} (silent : SetsNothing e) : Noting SetsNothing (Bench.writing e) := by
  refine (Noting.note silent).bind fun _ => .bind (fun _ => Adds.of_log_eq rfl rfl) fun _ => .get_bind fun b => ?_
  split
  · exact .throw _
  · exact .pure _

lemma silent_readText : Noting SetsNothing Line.readText := by
  have reply : Noting SetsNothing Bench.nextReply := by
    refine .get_bind fun b => ?_
    split
    · exact .pure _
    · refine .bind (fun _ => Adds.of_log_eq rfl rfl) fun _ => ?_
      split
      · exact .pure _
      · exact .throw _
  have heard : Noting SetsNothing (Bench.note .read) := Noting.note rfl
  exact (heard.bind fun _ => reply.bind fun _ => .pure _).bind fun _ => .lift _

/-! ### Orders -/

lemma log_writing (e : Event) (b : Bench) : (carry (Bench.writing e) b).2.log = b.log.push e := by
  have noted : carry (Bench.note e) b = (.ok (), { b with log := b.log.push e }) := rfl
  have counted (b : Bench) : carry (modify fun b => { b with writes := b.writes + 1 } : Work PUnit) b =
    (.ok ⟨⟩, { b with writes := b.writes + 1 }) := rfl
  have got (b : Bench) : carry (get : Work Bench) b = (.ok b, b) := rfl
  simp only [Bench.writing, carry_bind, noted, counted, got]
  split
  · rfl
  · rfl

lemma perform_write (connected : c.connected = some true) (o : Order ℚ) (b : Bench) :
    (perform (write (Order.text o)) c b).1.2 = c ∧
      orderLines (perform (write (Order.text o)) c b).2 = orderLines b ++ [lineOf c.line o] := by
  have logged : orderLines (carry (Bench.writing (.write (.text (Order.text o ++ c.line.writeEnd)))) b).2 =
      orderLines b ++ [lineOf c.line o] := by
    have sets : orderLine? (.write (.text (Order.text o ++ c.line.writeEnd))) = some (lineOf c.line o) :=
      if_pos (isOrderLine_lineOf c.line o)
    rw [orderLines, log_writing, Array.toList_push, filterMap_append, filterMap_cons_some sets]
    rfl
  rw [write, perform_get_bind, connected]
  dsimp only
  rw [guarded, Act.rescue, perform_tryCatch, perform_work]
  rcases ran : carry (Bench.writing (.write (.text (Order.text o ++ c.line.writeEnd)))) b with ⟨e | ⟨⟩, b'⟩
  · rw [ran] at logged
    exact ⟨rfl, logged⟩
  · rw [ran] at logged
    exact ⟨rfl, logged⟩

lemma perform_writeTwice (connected : c.connected = some true) (o : Order ℚ) (b : Bench) :
    ∃ n, 1 ≤ n ∧ n ≤ 2 ∧ orderLines (perform (do write (Order.text o); write (Order.text o)) c b).2 =
      orderLines b ++ List.replicate n (lineOf c.line o) := by
  obtain ⟨same, once⟩ := perform_write connected o b
  rw [perform_bind]
  rcases ran : perform (write (Order.text o)) c b with ⟨⟨e | a, s⟩, b'⟩
  · rw [ran] at once
    exact ⟨1, by decide, by decide, once⟩
  · rw [ran] at once same
    obtain rfl : s = c := same
    have again := (perform_write connected o b').2
    rw [once, append_assoc] at again
    exact ⟨2, by decide, by decide, again⟩

instance tells_give (o : Order ℚ) : Obeys Tells (give o) := by
  refine ⟨fun c => .get_bind (Within.ite (fun b => ?_) (Within.pure _))⟩
  rw [perform_modify_bind]
  have kept : (perform (do write (Order.text o); write (Order.text o)) { c with orders := o :: c.orders } b).1.2 =
      { c with orders := o :: c.orders } := ((idle_write _ _).bind fun _ c => idle_write _ c) b
  rw [kept]
  refine ⟨rfl, rfl, suffix_cons o c.orders, fun connected wire => ?_⟩
  obtain ⟨n, low, high, lines⟩ := perform_writeTwice (c := { c with orders := o :: c.orders }) connected o b
  exact ⟨orderLines b, n, wire, low, high, lines⟩

instance (x : ℚ) : Obeys Tells (putWidth x) := by
  dsimp only [putWidth]
  infer_instance

instance (x : ℚ) : Obeys Tells (putCentre x) := by
  dsimp only [putCentre]
  infer_instance

instance (a : Address ℚ) : Obeys Tells (putAddress a) := by
  dsimp only [putAddress]
  infer_instance

/-! ### Looking and asking -/

instance : Obeys Tells theCentre := ⟨idle_theCentre⟩

instance : Obeys Tells theWidth := ⟨idle_need⟩

instance : Obeys Tells theStep := ⟨idle_need⟩

instance : Obeys Tells theAddress := ⟨idle_need⟩

instance : Obeys Tells theActual := ⟨idle_need⟩

instance : Obeys Tells theFieldStep := ⟨idle_need⟩

instance (centre : ℚ) (address : Address ℚ) (up : Bool) : Obeys Tells (search centre address up) :=
  ⟨idle_search centre address up⟩

instance tells_query : Obeys Tells (query "LE") := by
  have asks (line : Line.Parameters) : SetsNothing (.write (.text ("LE" ++ line.readEnd))) :=
    if_neg (by simp [isOrderLine, String.toList_append])
  have asked (line : Line.Parameters) : Obeys Tells (liftM (Bench.writing (.write (.text ("LE" ++ line.readEnd)))) :
      Act (Controller ℚ) Unit) := tells_work (silent_writing (asks line))
  have heard : Obeys Tells (liftM Line.readText : Act (Controller ℚ) String) := tells_work silent_readText
  dsimp only [query, guarded]
  infer_instance

instance tells_awaitBalance (n : Nat) : Obeys Tells (awaitBalance n) := by
  have slept : Obeys Tells (liftM (Bench.sleep 1) : Act (Controller ℚ) Unit) := tells_work (Noting.note rfl)
  induction n with
  | zero => exact Obeys.pure _
  | succ n ih =>
    dsimp only [awaitBalance]
    infer_instance

instance : Obeys Tells (getThe Bench : Act (Controller ℚ) Bench) := ⟨fun _ _ => Std.Refl.refl _⟩

instance : Obeys Tells checkLights := by
  dsimp only [checkLights]
  infer_instance

instance (x : ℚ) : Obeys Tells (checkField x) := by
  refine .seq Obeys.get fun c => ?_
  cases c.mode with
  | live =>
    dsimp only
    infer_instance
  | rehearsal => exact Obeys.lift _

instance (x : ℚ) : Obeys Tells (noteDeviation x) := by
  dsimp only [noteDeviation]
  infer_instance

instance : Obeys Tells updateActual := by
  dsimp only [updateActual, currentField]
  infer_instance

instance : Obeys Tells isSettable := by
  dsimp only [isSettable]
  infer_instance

/-! ### Setting a field -/

instance (x : ℚ) : Obeys Tells (setCentre x) := tells_note _

instance (x : ℚ) : Obeys Tells (setWidth x) := tells_note _

instance (a : Address ℚ) : Obeys Tells (setAddress a) := tells_note _

instance (x rest : ℚ) : Obeys Tells (setAside x rest) := by
  dsimp only [setAside]
  infer_instance

instance (x : ℚ) : Obeys Tells (setFirst x) := by
  dsimp only [setFirst]
  infer_instance

instance (x : ℚ) : Obeys Tells (changeWidth x) := by
  refine .seq inferInstance fun centre => .seq inferInstance fun guessed => ?_
  rcases guessed with _ | ⟨width, step⟩
  · dsimp only
    infer_instance
  · dsimp only
    infer_instance

instance (x : ℚ) : Obeys Tells (sweepTo x) := by
  dsimp only [sweepTo]
  infer_instance

instance (below : ℚ) : Obeys Tells (shiftIntoRange below) := by
  dsimp only [shiftIntoRange]
  infer_instance

instance (x : ℚ) : Obeys Tells (keepWidth x) := by
  dsimp only [keepWidth]
  infer_instance

instance (x : ℚ) : Obeys Tells (setNext x) := by
  dsimp only [setNext, changeField]
  infer_instance

instance (x : ℚ) : Obeys Tells (setField x) := by
  dsimp only [setField]
  infer_instance

instance : Obeys Tells field := by
  dsimp only [field]
  infer_instance

/-! ### Sweeps -/

instance : Obeys Tells planSweep := by
  dsimp only [planSweep]
  infer_instance

instance : Obeys Tells goToStart := by
  dsimp only [goToStart]
  infer_instance

instance (x : ℚ) : Obeys Tells (startOnGrid x) := by
  dsimp only [startOnGrid]
  infer_instance

instance (start step : ℚ) (stepText : String) : Obeys Tells (setup start step stepText) := by
  dsimp only [setup, refuseStep]
  infer_instance

instance (up : Bool) : Obeys Tells (moveCentre up) := by
  dsimp only [moveCentre]
  infer_instance

instance (up : Bool) : Obeys Tells (sweep up) := by
  dsimp only [sweep]
  infer_instance

end Controller

end EprBench.Magnet
