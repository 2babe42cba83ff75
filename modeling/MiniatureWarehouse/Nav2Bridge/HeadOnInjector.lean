import MiniatureWarehouse.Traffic.TrafficLogic
import MiniatureWarehouse.Framework.Runs
import MiniatureWarehouse.Framework.StableSort
import Mathlib.Data.String.Basic

/-!
# The injector of head-on goals

Robots that swap their places have to pass the same aisles.  The injector contends the aisles for
each of them, sends those that get theirs and queues the others; when a robot has reached its goal,
its aisles are released and the first robot of the queue that gets its aisles is sent.

Three tables are kept apart: the locks of the arbiter, the robots that are under way and the queue.
`Serialized` relates them, and `head_on_serializes` says that they never drift apart.  Nothing is
stuck either: where no robot is under way all aisles are free, so that the first of the queue gets
its own.
-/

namespace MiniatureWarehouse

/-- What the injector fails with: its own checks, or what a collaborator raises. -/
inductive InjectorError (ε : Type*)
  | invalid (e : PyErr)
  | raised (e : ε)

/-- What the bridge of the arbiter, if it has one, and the navigator answer. -/
structure Collaborators (α ε : Type*) where
  bridge : Option (Nav2BridgeLike ε)
  navigate : String → α × α → Except ε Unit

/-- Every call succeeds. -/
structure Collaborators.Accept {α ε : Type*} (E : Collaborators α ε) : Prop where
  bridge : ∀ navigate ∈ E.bridge, ∀ robot destination, navigate robot destination = .ok ()
  navigate : ∀ robot goal, E.navigate robot goal = .ok ()

/-- `_xy`: the yaw is dropped. -/
def xy {α : Type*} : List α → Except PyErr (α × α)
  | x :: y :: _ => .ok (x, y)
  | _ => .error .valueError

/-- `HeadOnInjector`, with the goals that its navigator has been sent. -/
structure HeadOnInjector (α τ : Type*) where
  arbiter : SimpleTrafficManager τ
  goals : Dict String (α × α)
  routes : Dict String (String × String)
  waiting : List String
  dispatched : List String
  sent : List (String × (α × α))

namespace HeadOnInjector

variable {α τ ε : Type*} (E : Collaborators α ε)

/-- The injector as it is built. -/
def init (arbiter : SimpleTrafficManager τ) : HeadOnInjector α τ :=
  ⟨arbiter, .empty, .empty, [], [], []⟩

/-- The submission of a robot to the arbiter. -/
def submit (s : HeadOnInjector α τ) (robot : String) :
    HeadOnInjector α τ × Except (InjectorError ε) SubmitResult :=
  match s.routes.get? robot with
  | none => (s, .error (.invalid .keyError))
  | some (pickup, dropoff) =>
    let (arbiter, result) := s.arbiter.submitTask E.bridge robot pickup dropoff none
    ({ s with arbiter := arbiter }, result.mapError .raised)

/-- The navigation of a robot to its goal. -/
def dispatch (s : HeadOnInjector α τ) (robot : String) :
    HeadOnInjector α τ × Except (InjectorError ε) Unit :=
  match s.goals.get? robot with
  | none => (s, .error (.invalid .keyError))
  | some goal =>
    match E.navigate robot goal with
    | .error e => (s, .error (.raised e))
    | .ok () =>
      ({ s with sent := s.sent ++ [(robot, goal)], dispatched := s.dispatched ++ [robot] }, .ok ())

/-- `_contend`. -/
def contend (s : HeadOnInjector α τ) (robot : String) :
    HeadOnInjector α τ × Except (InjectorError ε) Unit :=
  match s.submit E robot with
  | (s, .error e) => (s, .error e)
  | (s, .ok .sent) => s.dispatch E robot
  | (s, .ok (.waiting _ _)) =>
    (if robot ∈ s.waiting then s else { s with waiting := s.waiting ++ [robot] }, .ok ())

/-- The loop of `inject`. -/
def contendAll : HeadOnInjector α τ → List String →
    HeadOnInjector α τ × Except (InjectorError ε) Unit
  | s, [] => (s, .ok ())
  | s, robot :: robots =>
    match s.contend E robot with
    | (s, .error e) => (s, .error e)
    | (s, .ok ()) => contendAll s robots

/-- `inject`: the robots that are under way, and those that wait. -/
def inject (s : HeadOnInjector α τ) (goals : Dict String (List α))
    (routes : Dict String (String × String)) :
    HeadOnInjector α τ × Except (InjectorError ε) (List String × List String) :=
  match goals.collect fun _ => xy with
  | .error e => (s, .error (.invalid e))
  | .ok targets =>
    match goals.collect fun robot _ =>
      match routes.get? robot with
      | none => Except.error PyErr.keyError
      | some route => .ok route with
    | .error e => ({ s with goals := targets }, .error (.invalid e))
    | .ok ways =>
      let start :=
        { s with goals := targets, routes := ways, waiting := [], dispatched := [] }
      match contendAll E start (sortBy id (targets.entries.map Prod.fst)) with
      | (s, .error e) => (s, .error e)
      | (s, .ok ()) => (s, .ok (s.dispatched, s.waiting))

/-- The loop of `_dispatch_next`. -/
def dispatchFirst : HeadOnInjector α τ → List String →
    HeadOnInjector α τ × Except (InjectorError ε) (Option String)
  | s, [] => (s, .ok none)
  | s, robot :: robots =>
    match s.submit E robot with
    | (s, .error e) => (s, .error e)
    | (s, .ok (.waiting _ _)) => dispatchFirst s robots
    | (s, .ok .sent) =>
      match dispatch E { s with waiting := s.waiting.erase robot } robot with
      | (s, .error e) => (s, .error e)
      | (s, .ok ()) => (s, .ok (some robot))

/-- The aisles a robot holds. -/
def held (s : HeadOnInjector α τ) (robot : String) : List String :=
  s.arbiter.aisleLocks.entries.filterMap fun e => if e.2 = some robot then some e.1 else none

/-- `on_goal_reached`: the robot that is sent next. -/
def onGoalReached (s : HeadOnInjector α τ) (robot : String) :
    HeadOnInjector α τ × Except (InjectorError ε) (Option String) :=
  let released := (s.held robot).foldl (fun m aisle => m.releaseAisle robot aisle) s.arbiter
  let s := { s with arbiter := released, dispatched := s.dispatched.erase robot }
  dispatchFirst E s s.waiting

/-- The injector as robots reach their goals. -/
def reports : Machine (HeadOnInjector α τ) String (Except (InjectorError ε) (Option String)) where
  step s robot := s.onGoalReached E robot

/-! ## The tables together -/

/-- What an injection is given, with the planner of the arbiter. -/
structure Swap (α : Type*) where
  goals : Dict String (List α)
  routes : Dict String (String × String)
  planRoute : String → String → List String

/-- The goal of a robot. -/
def Swap.goal (w : Swap α) (robot : String) : Option (α × α) :=
  (w.goals.get? robot).bind fun data => (xy data).toOption

/-- The aisles a robot has to pass. -/
def Swap.aisles (w : Swap α) (robot : String) : List String :=
  match w.routes.get? robot with
  | none => []
  | some (pickup, dropoff) => w.planRoute pickup dropoff

/-- The injector knows the way and the goal of a robot, whose name is a name. -/
structure Knows (w : Swap α) (s : HeadOnInjector α τ) (robot : String) : Prop where
  named : robot ≠ ""
  way : ∃ pickup dropoff, s.routes.get? robot = some (pickup, dropoff) ∧
    s.arbiter.planRoute pickup dropoff = w.aisles robot
  goal : ∃ goal, s.goals.get? robot = some goal ∧ w.goal robot = some goal

/-- The robots that are under way and those that wait are the admitted ones that have not finished;
a robot that is under way has all its aisles, and nobody else has one; and what has been sent since
`before` is each of the robots that were under way, once, to its own goal. -/
structure Serialized (w : Swap α) (before : List (String × (α × α)))
    (admitted finished : Set String) (s : HeadOnInjector α τ) : Prop where
  nodup : (s.dispatched ++ s.waiting).Nodup
  present : ∀ r, r ∈ s.dispatched ∨ r ∈ s.waiting ↔ r ∈ admitted ∧ r ∉ finished
  finished_admitted : finished ⊆ admitted
  holds : ∀ r ∈ s.dispatched, ∀ aisle ∈ w.aisles r, s.arbiter.occupant aisle = some r
  held_by : ∀ aisle r, s.arbiter.occupant aisle = some r → r ≠ "" → r ∈ s.dispatched
  sent_once : ∃ new, s.sent = before ++ new ∧
    (∀ r, r ∈ s.dispatched ∨ r ∈ finished →
      ∃ goal, w.goal r = some goal ∧ new.filter (fun send => send.1 = r) = [(r, goal)]) ∧
    ∀ r, r ∉ s.dispatched → r ∉ finished → new.filter (fun send => send.1 = r) = []

/-- Somebody is under way where somebody waits. -/
def Moving (s : HeadOnInjector α τ) : Prop := s.waiting ≠ [] → s.dispatched ≠ []

variable {E} {w : Swap α} {before : List (String × (α × α))} {admitted finished : Set String}
  {s : HeadOnInjector α τ} {robot : String}

lemma Serialized.notMem_waiting (h : Serialized w before admitted finished s)
    (hr : robot ∈ s.dispatched) : robot ∉ s.waiting :=
  fun hw => (List.nodup_append.mp h.nodup).2.2 robot hr robot hw rfl

/-- Only a robot that is under way keeps another one out of an aisle. -/
lemma Serialized.dispatched_of_blocked (h : Serialized w before admitted finished s)
    {aisle : String} (hblocked : s.arbiter.Blocked robot aisle) : s.dispatched ≠ [] := by
  obtain ⟨other, hocc, hne, -⟩ := hblocked
  exact List.ne_nil_of_mem (h.held_by aisle other hocc hne)

/-! ## Submitting and sending -/

/-- The robot takes its aisles. -/
def take (s : HeadOnInjector α τ) (robot : String) (aisles : List String) : HeadOnInjector α τ :=
  { s with arbiter := aisles.foldl (SimpleTrafficManager.acquire robot none) s.arbiter }

/-- The robot is sent to a goal. -/
def send (s : HeadOnInjector α τ) (robot : String) (goal : α × α) : HeadOnInjector α τ :=
  { s with
    waiting := s.waiting.erase robot
    dispatched := s.dispatched ++ [robot]
    sent := s.sent ++ [(robot, goal)] }

/-- A robot is kept out of one of its aisles, and nothing changes, or it takes them all. -/
lemma submit_cases (hE : E.Accept) (hknows : Knows w s robot) :
    (∃ reason aisle, s.submit E robot = (s, .ok (.waiting reason aisle)) ∧
      s.arbiter.Blocked robot aisle) ∨
    (s.submit E robot = (s.take robot (w.aisles robot), .ok .sent) ∧
      ∀ aisle ∈ w.aisles robot, ¬ s.arbiter.Blocked robot aisle) := by
  obtain ⟨pickup, dropoff, hway, hplan⟩ := hknows.way
  have hspec := s.arbiter.submitTask_submission E.bridge robot pickup dropoff none
  unfold submit
  rw [hway]
  dsimp only
  generalize s.arbiter.submitTask E.bridge robot pickup dropoff none = result at hspec
  cases hspec with
  | waits hmem hblocked reason => exact .inl ⟨reason, _, rfl, hblocked⟩
  | sends hfree haccepts =>
    rw [hplan] at hfree ⊢
    exact .inr ⟨rfl, hfree⟩
  | raises hfree hbridge hraises =>
    rw [hE.bridge _ hbridge] at hraises
    cases hraises

lemma dispatch_eq (hE : E.Accept) {goal : α × α} (hgoal : s.goals.get? robot = some goal) :
    s.dispatch E robot =
      ({ s with sent := s.sent ++ [(robot, goal)], dispatched := s.dispatched ++ [robot] },
        .ok ()) := by
  unfold dispatch
  rw [hgoal]
  dsimp only
  rw [hE.navigate]

/-- The first robot of the queue that takes its aisles is sent. -/
lemma dispatchFirst_sent (hE : E.Accept) {t : HeadOnInjector α τ} {robots : List String}
    {goal : α × α} (hsubmit : s.submit E robot = (t, .ok .sent))
    (hgoal : t.goals.get? robot = some goal) :
    s.dispatchFirst E (robot :: robots) = (t.send robot goal, .ok (some robot)) := by
  unfold dispatchFirst
  rw [hsubmit]
  dsimp only
  rw [dispatch_eq hE (s := { t with waiting := t.waiting.erase robot }) hgoal]
  rfl

/-- A robot that is not under way, has not finished and finds its aisles free is sent. -/
lemma Serialized.send (h : Serialized w before admitted finished s) (hknows : Knows w s robot)
    (hout : robot ∉ s.dispatched) (hunfinished : robot ∉ finished)
    (hfree : ∀ aisle ∈ w.aisles robot, ¬ s.arbiter.Blocked robot aisle) {goal : α × α}
    (hgoal : w.goal robot = some goal) (hnamed : ∀ r ∈ s.dispatched, r ≠ "") :
    Serialized w before (insert robot admitted) finished
      ((s.take robot (w.aisles robot)).send robot goal) := by
  have hnodup := List.nodup_append.mp h.nodup
  have hocc : ∀ a, ((s.take robot (w.aisles robot)).send robot goal).arbiter.occupant a =
      if a ∈ w.aisles robot then some robot else s.arbiter.occupant a :=
    SimpleTrafficManager.occupant_acquireAll s.arbiter robot none (w.aisles robot)
  have hmem : ∀ r, r ∈ s.dispatched ++ [robot] ↔ r ∈ s.dispatched ∨ r = robot := fun r => by
    rw [List.mem_append, List.mem_singleton]
  have herase : ∀ r, r ∈ s.waiting.erase robot ↔ r ≠ robot ∧ r ∈ s.waiting := fun r =>
    hnodup.2.1.mem_erase_iff
  refine ⟨?_, fun r => ?_, ?_, fun r hr aisle haisle => ?_, fun aisle r hr hne => ?_, ?_⟩
  · show (s.dispatched ++ [robot] ++ s.waiting.erase robot).Nodup
    rw [List.nodup_append]
    refine ⟨List.nodup_append.mpr ⟨hnodup.1, List.nodup_singleton robot, ?_⟩,
      hnodup.2.1.erase robot, ?_⟩
    · rintro r hr _ hr' rfl
      rw [List.mem_singleton.mp hr'] at hr
      exact hout hr
    · rintro r hr _ hr' rfl
      obtain ⟨hne, hwaiting⟩ := (herase r).mp hr'
      rcases (hmem r).mp hr with hdispatched | heq
      · exact hnodup.2.2 r hdispatched r hwaiting rfl
      · exact hne heq
  · show r ∈ s.dispatched ++ [robot] ∨ r ∈ s.waiting.erase robot ↔ _
    rw [hmem, herase, Set.mem_insert_iff]
    by_cases hrobot : r = robot
    · subst hrobot
      exact iff_of_true (.inl (.inr rfl)) ⟨.inl rfl, hunfinished⟩
    · have hpresent := h.present r
      tauto
  · exact h.finished_admitted.trans (Set.subset_insert robot admitted)
  · rw [hocc]
    by_cases htaken : aisle ∈ w.aisles robot
    · rw [if_pos htaken]
      rcases (hmem r).mp hr with hdispatched | rfl
      · by_contra hne
        refine hfree aisle htaken ⟨r, h.holds r hdispatched aisle haisle, hnamed r hdispatched, ?_⟩
        exact fun heq => hne (congrArg some heq.symm)
      · rfl
    · rw [if_neg htaken]
      rcases (hmem r).mp hr with hdispatched | rfl
      · exact h.holds r hdispatched aisle haisle
      · exact absurd haisle htaken
  · rw [hocc] at hr
    refine (hmem r).mpr ?_
    split_ifs at hr with htaken
    · exact .inr (Option.some.inj hr).symm
    · exact .inl (h.held_by aisle r hr hne)
  · obtain ⟨new, hsent, honce, hnever⟩ := h.sent_once
    refine ⟨new ++ [(robot, goal)], ?_, fun r hr => ?_, fun r hr hr' => ?_⟩
    · show s.sent ++ [(robot, goal)] = _
      rw [hsent, List.append_assoc]
    · rw [List.filter_append]
      by_cases hrobot : r = robot
      · subst hrobot
        refine ⟨goal, hgoal, ?_⟩
        rw [hnever r hout hunfinished, List.nil_append, List.filter_singleton]
        simp
      · have hold : r ∈ s.dispatched ∨ r ∈ finished := by
          rcases hr with hr | hr
          · exact .inl (((hmem r).mp hr).resolve_right hrobot)
          · exact .inr hr
        obtain ⟨goal', hgoal', hfilter⟩ := honce r hold
        refine ⟨goal', hgoal', ?_⟩
        rw [hfilter, List.filter_singleton]
        simp [Ne.symm hrobot]
    · have hne : robot ≠ r := fun heq => hr ((hmem r).mpr (.inr heq.symm))
      rw [List.filter_append, hnever r (fun hd => hr ((hmem r).mpr (.inl hd))) hr',
        List.filter_singleton]
      simp [hne]

/-! ## Contending -/

/-- The injector knows every robot of the injection, and admits no other. -/
structure Prepared (w : Swap α) (admitted : Set String) (s : HeadOnInjector α τ) : Prop where
  knows : ∀ r data, w.goals.get? r = some data → Knows w s r
  admitted_given : ∀ r ∈ admitted, ∃ data, w.goals.get? r = some data

lemma Serialized.named (h : Serialized w before admitted finished s)
    (hprepared : Prepared w admitted s) {r : String} (hr : r ∈ s.dispatched) : r ≠ "" := by
  obtain ⟨data, hdata⟩ := hprepared.admitted_given r ((h.present r).mp (.inl hr)).1
  exact (hprepared.knows r data hdata).named

/-- What a robot does to the tables leaves what the injector knows. -/
lemma Knows.of_eq {s' : HeadOnInjector α τ} (h : Knows w s robot) (hgoals : s'.goals = s.goals)
    (hroutes : s'.routes = s.routes) (hplan : s'.arbiter.planRoute = s.arbiter.planRoute) :
    Knows w s' robot := by
  refine ⟨h.named, ?_, ?_⟩
  · rw [hroutes, hplan]
    exact h.way
  · rw [hgoals]
    exact h.goal

lemma planRoute_take (aisles : List String) :
    (s.take robot aisles).arbiter.planRoute = s.arbiter.planRoute :=
  SimpleTrafficManager.planRoute_acquireAll s.arbiter robot none aisles

/-- A robot that is blocked joins the queue. -/
lemma Serialized.enqueue (h : Serialized w before admitted finished s) (hnew : robot ∉ admitted) :
    Serialized w before (insert robot admitted) finished
      { s with waiting := s.waiting ++ [robot] } := by
  have hnodup := List.nodup_append.mp h.nodup
  have hout : robot ∉ s.dispatched := fun hr => hnew ((h.present robot).mp (.inl hr)).1
  have hwait : robot ∉ s.waiting := fun hr => hnew ((h.present robot).mp (.inr hr)).1
  refine ⟨?_, fun r => ?_, ?_, h.holds, h.held_by, h.sent_once⟩
  · show (s.dispatched ++ (s.waiting ++ [robot])).Nodup
    rw [← List.append_assoc, List.nodup_append]
    refine ⟨h.nodup, List.nodup_singleton robot, ?_⟩
    rintro r hr _ hr' rfl
    rw [List.mem_singleton.mp hr'] at hr
    exact (List.mem_append.mp hr).elim hout hwait
  · show r ∈ s.dispatched ∨ r ∈ s.waiting ++ [robot] ↔ _
    rw [List.mem_append, List.mem_singleton, Set.mem_insert_iff]
    have hpresent := h.present r
    by_cases hrobot : r = robot
    · subst hrobot
      exact iff_of_true (.inr (.inr rfl)) ⟨.inl rfl, fun hr => hnew (h.finished_admitted hr)⟩
    · tauto
  · exact h.finished_admitted.trans (Set.subset_insert robot admitted)

/-- After a robot has contended its aisles somebody is under way: the robot itself, or another one
that keeps it out. -/
lemma contend_serialized (hE : E.Accept) (h : Serialized w before admitted finished s)
    (hprepared : Prepared w admitted s) {data : List α} (hdata : w.goals.get? robot = some data)
    (hnew : robot ∉ admitted) :
    ∃ s', s.contend E robot = (s', .ok ()) ∧
      Serialized w before (insert robot admitted) finished s' ∧
      Prepared w (insert robot admitted) s' ∧ s'.dispatched ≠ [] := by
  have hknows := hprepared.knows robot data hdata
  have hout : robot ∉ s.dispatched := fun hr => hnew ((h.present robot).mp (.inl hr)).1
  have hwait : robot ∉ s.waiting := fun hr => hnew ((h.present robot).mp (.inr hr)).1
  have hgiven : ∀ r ∈ insert robot admitted, ∃ data, w.goals.get? r = some data := by
    intro r hr
    rcases Set.mem_insert_iff.mp hr with rfl | hr
    · exact ⟨data, hdata⟩
    · exact hprepared.admitted_given r hr
  unfold contend
  rcases submit_cases hE hknows with ⟨reason, aisle, hsubmit, hblocked⟩ | ⟨hsubmit, hfree⟩
  · rw [hsubmit]
    dsimp only
    rw [if_neg hwait]
    refine ⟨_, rfl, h.enqueue hnew, ⟨fun r data hdata => ?_, hgiven⟩, ?_⟩
    · exact (hprepared.knows r data hdata).of_eq rfl rfl rfl
    · exact h.dispatched_of_blocked hblocked
  · obtain ⟨goal, hgoal, hown⟩ := hknows.goal
    rw [hsubmit]
    dsimp only
    rw [dispatch_eq hE (s := s.take robot (w.aisles robot)) hgoal]
    have hsend : ((s.take robot (w.aisles robot)).send robot goal) =
        { s.take robot (w.aisles robot) with
          sent := s.sent ++ [(robot, goal)], dispatched := s.dispatched ++ [robot] } := by
      unfold send
      rw [show (s.take robot (w.aisles robot)).waiting = s.waiting from rfl,
        List.erase_of_not_mem hwait]
      rfl
    refine ⟨_, rfl, ?_, ⟨fun r data hdata => ?_, hgiven⟩, ?_⟩
    · have hsent := h.send hknows hout (fun hr => hnew (h.finished_admitted hr)) hfree hown
        fun r hr => h.named hprepared hr
      rw [hsend] at hsent
      exact hsent
    · exact (hprepared.knows r data hdata).of_eq rfl rfl (planRoute_take _)
    · exact List.append_ne_nil_of_right_ne_nil _ (List.cons_ne_nil _ _)

/-- The loop of an injection admits its robots. -/
lemma contendAll_serialized (hE : E.Accept) {robots : List String}
    (h : Serialized w before admitted finished s) (hprepared : Prepared w admitted s)
    (hmoving : s.Moving) (hgiven : ∀ r ∈ robots, ∃ data, w.goals.get? r = some data)
    (hnodup : robots.Nodup) (hnew : ∀ r ∈ robots, r ∉ admitted) :
    ∃ s', s.contendAll E robots = (s', .ok ()) ∧
      Serialized w before (admitted ∪ {r | r ∈ robots}) finished s' ∧
      Prepared w (admitted ∪ {r | r ∈ robots}) s' ∧ s'.Moving := by
  induction robots generalizing s admitted with
  | nil =>
    have hsame : admitted ∪ {r | r ∈ ([] : List String)} = admitted := by simp
    rw [hsame]
    exact ⟨s, rfl, h, hprepared, hmoving⟩
  | cons robot robots ih =>
    obtain ⟨⟨data, hdata⟩, hgiven⟩ := List.forall_mem_cons.mp hgiven
    obtain ⟨hfirst, hnew⟩ := List.forall_mem_cons.mp hnew
    obtain ⟨hnotMem, hnodup⟩ := List.nodup_cons.mp hnodup
    obtain ⟨s₁, hcontend, h₁, hprepared₁, hmoving₁⟩ :=
      contend_serialized hE h hprepared hdata hfirst
    have hnew₁ : ∀ r ∈ robots, r ∉ insert robot admitted := by
      intro r hr hmem
      rcases Set.mem_insert_iff.mp hmem with rfl | hmem
      · exact hnotMem hr
      · exact hnew r hr hmem
    obtain ⟨s', hall, h', hprepared', hmoving'⟩ :=
      ih h₁ hprepared₁ (fun _ => hmoving₁) hgiven hnodup hnew₁
    have hset : insert robot admitted ∪ {r | r ∈ robots} =
        admitted ∪ {r | r ∈ robot :: robots} := by
      ext r
      simp only [Set.mem_union, Set.mem_insert_iff, Set.mem_ofPred_eq, List.mem_cons]
      tauto
    rw [hset] at h' hprepared'
    refine ⟨s', ?_, h', hprepared', hmoving'⟩
    unfold contendAll
    rw [hcontend]
    exact hall

/-! ## Reaching a goal -/

lemma mem_held {aisle : String} :
    aisle ∈ s.held robot ↔ s.arbiter.occupant aisle = some robot := by
  unfold held SimpleTrafficManager.occupant Dict.getD
  rw [List.mem_filterMap]
  constructor
  · rintro ⟨⟨a, occupant⟩, hmem, hsome⟩
    split_ifs at hsome with hocc
    obtain rfl := Option.some.inj hsome
    dsimp only at hocc
    subst hocc
    rw [s.arbiter.aisleLocks.mem_entries_iff.mp hmem]
    rfl
  · intro h
    cases hget : s.arbiter.aisleLocks.get? aisle with
    | none =>
      rw [hget] at h
      cases h
    | some occupant =>
      rw [hget] at h
      exact ⟨(aisle, occupant), s.arbiter.aisleLocks.mem_entries_iff.mpr hget, if_pos h⟩

lemma occupant_releaseAll (m : SimpleTrafficManager τ) (robot : String) (aisles : List String)
    (a : String) :
    (aisles.foldl (fun m aisle => m.releaseAisle robot aisle) m).occupant a =
      if a ∈ aisles ∧ m.occupant a = some robot then none else m.occupant a := by
  induction aisles generalizing m with
  | nil => exact (if_neg fun h => List.not_mem_nil h.1).symm
  | cons aisle aisles ih =>
    rw [List.foldl_cons, ih, SimpleTrafficManager.occupant_releaseAisle]
    by_cases hocc : m.occupant a = some robot
    · by_cases hhead : a = aisle
      · simp [hhead]
      · simp [hhead]
    · simp [hocc]

lemma planRoute_releaseAll (m : SimpleTrafficManager τ) (robot : String) (aisles : List String) :
    (aisles.foldl (fun m aisle => m.releaseAisle robot aisle) m).planRoute = m.planRoute := by
  induction aisles generalizing m with
  | nil => rfl
  | cons aisle aisles ih => rw [List.foldl_cons, ih, SimpleTrafficManager.planRoute_releaseAisle]

/-- The injector after a robot has given back its aisles. -/
def release (s : HeadOnInjector α τ) (robot : String) : HeadOnInjector α τ :=
  { s with
    arbiter := (s.held robot).foldl (fun m aisle => m.releaseAisle robot aisle) s.arbiter
    dispatched := s.dispatched.erase robot }

lemma occupant_release (aisle : String) :
    (s.release robot).arbiter.occupant aisle =
      if s.arbiter.occupant aisle = some robot then none else s.arbiter.occupant aisle := by
  unfold release
  dsimp only
  rw [occupant_releaseAll]
  refine if_congr ?_ rfl rfl
  rw [mem_held]
  exact and_self_iff

/-- A robot that was under way has finished. -/
lemma Serialized.release (h : Serialized w before admitted finished s) :
    Serialized w before admitted {r | r ∈ finished ∨ r = robot ∧ robot ∈ s.dispatched}
      (s.release robot) := by
  have hnodup := List.nodup_append.mp h.nodup
  have herase : ∀ r, r ∈ s.dispatched.erase robot ↔ r ≠ robot ∧ r ∈ s.dispatched := fun r =>
    hnodup.1.mem_erase_iff
  refine ⟨?_, fun r => ?_, ?_, fun r hr aisle haisle => ?_, fun aisle r hr hne => ?_, ?_⟩
  · exact h.nodup.sublist (List.erase_sublist.append_right s.waiting)
  · show r ∈ s.dispatched.erase robot ∨ r ∈ s.waiting ↔
      r ∈ admitted ∧ ¬ (r ∈ finished ∨ r = robot ∧ robot ∈ s.dispatched)
    rw [herase]
    have hpresent := h.present r
    by_cases hrobot : r = robot
    · subst hrobot
      have hout : r ∈ s.dispatched → r ∉ s.waiting := h.notMem_waiting
      tauto
    · tauto
  · rintro r (hr | ⟨rfl, hr⟩)
    · exact h.finished_admitted hr
    · exact ((h.present r).mp (.inl hr)).1
  · obtain ⟨hne, hr⟩ := (herase r).mp hr
    have hocc := h.holds r hr aisle haisle
    rw [occupant_release, hocc, if_neg fun heq => hne (Option.some.inj heq)]
  · rw [occupant_release] at hr
    split_ifs at hr with hocc
    refine (herase r).mpr ⟨fun heq => hocc ?_, h.held_by aisle r hr hne⟩
    rw [hr, heq]
  · obtain ⟨new, hsent, honce, hnever⟩ := h.sent_once
    refine ⟨new, hsent, fun r hr => honce r ?_,
      fun r hr hr' => hnever r (fun hd => ?_) fun hf => ?_⟩
    · rcases hr with hr | hr | ⟨rfl, hr⟩
      · exact .inl ((herase r).mp hr).2
      · exact .inr hr
      · exact .inl hr
    · by_cases hrobot : r = robot
      · subst hrobot
        exact hr' (.inr ⟨rfl, hd⟩)
      · exact hr ((herase r).mpr ⟨hrobot, hd⟩)
    · exact hr' (.inl hf)

/-- The loop over the queue sends the first robot that gets its aisles; where it sends none, each
is blocked. -/
lemma dispatchFirst_serialized (hE : E.Accept) (h : Serialized w before admitted finished s)
    (hprepared : Prepared w admitted s) (robots : List String)
    (hrobots : ∀ r ∈ robots, r ∈ s.waiting) :
    (s.dispatchFirst E robots = (s, .ok none) ∧
      ∀ r ∈ robots, ∃ aisle, s.arbiter.Blocked r aisle) ∨
    ∃ robot s', s.dispatchFirst E robots = (s', .ok (some robot)) ∧
      Serialized w before admitted finished s' ∧ Prepared w admitted s' ∧ s'.dispatched ≠ [] := by
  induction robots with
  | nil => exact .inl ⟨rfl, fun r hr => absurd hr List.not_mem_nil⟩
  | cons robot robots ih =>
    obtain ⟨hwait, hrobots⟩ := List.forall_mem_cons.mp hrobots
    obtain ⟨hadmitted, hunfinished⟩ := (h.present robot).mp (.inr hwait)
    have hout : robot ∉ s.dispatched := fun hr => h.notMem_waiting hr hwait
    obtain ⟨data, hdata⟩ := hprepared.admitted_given robot hadmitted
    have hknows := hprepared.knows robot data hdata
    rcases submit_cases hE hknows with ⟨reason, aisle, hsubmit, hblocked⟩ | ⟨hsubmit, hfree⟩
    · unfold dispatchFirst
      rw [hsubmit]
      rcases ih hrobots with ⟨hnone, hall⟩ | hsome
      · exact .inl ⟨hnone, List.forall_mem_cons.mpr ⟨⟨aisle, hblocked⟩, hall⟩⟩
      · exact .inr hsome
    · obtain ⟨goal, hgoal, hown⟩ := hknows.goal
      have hsent := h.send hknows hout hunfinished hfree hown fun r hr => h.named hprepared hr
      rw [Set.insert_eq_of_mem hadmitted] at hsent
      rw [dispatchFirst_sent hE hsubmit hgoal]
      refine .inr ⟨robot, _, rfl, hsent, ⟨fun r data hdata => ?_, hprepared.admitted_given⟩, ?_⟩
      · exact (hprepared.knows r data hdata).of_eq rfl rfl (planRoute_take _)
      · exact List.append_ne_nil_of_right_ne_nil _ (List.cons_ne_nil _ _)

variable (robot) in
/-- A robot reports its goal: the injector does not raise, and the tables stay together. -/
lemma onGoalReached_serialized (hE : E.Accept) (h : Serialized w before admitted finished s)
    (hprepared : Prepared w admitted s) :
    ∃ s' next, s.onGoalReached E robot = (s', .ok next) ∧
      Serialized w before admitted {r | r ∈ finished ∨ r = robot ∧ robot ∈ s.dispatched} s' ∧
      Prepared w admitted s' ∧ s'.Moving := by
  have hrelease : Serialized w before admitted
      {r | r ∈ finished ∨ r = robot ∧ robot ∈ s.dispatched} (s.release robot) := h.release
  have hprepared' : Prepared w admitted (s.release robot) :=
    ⟨fun r data hdata => (hprepared.knows r data hdata).of_eq rfl rfl (planRoute_releaseAll _ _ _),
      hprepared.admitted_given⟩
  rcases dispatchFirst_serialized hE hrelease hprepared' s.waiting fun r hr => hr with
    ⟨hnone, hall⟩ | ⟨next, s', hsome, hs', hprepared', hmoving⟩
  · refine ⟨s.release robot, none, hnone, hrelease, hprepared', fun hwait => ?_⟩
    obtain ⟨r, hr⟩ := List.exists_mem_of_ne_nil _ hwait
    obtain ⟨aisle, hblocked⟩ := hall r hr
    exact hrelease.dispatched_of_blocked hblocked
  · exact ⟨s', some next, hsome, hs', hprepared', fun _ => hmoving⟩

/-! ## Injections and reports -/

/-- The robots of an injection. -/
def Swap.robots (w : Swap α) : Set String := {r | ∃ data, w.goals.get? r = some data}

/-- The injector when an injection has been read and nothing has been contended yet. -/
def started (s : HeadOnInjector α τ) (targets : Dict String (α × α))
    (ways : Dict String (String × String)) : HeadOnInjector α τ :=
  { s with goals := targets, routes := ways, waiting := [], dispatched := [] }

section Started

variable {goals : Dict String (List α)} {routes : Dict String (String × String)}
  {targets : Dict String (α × α)} {ways : Dict String (String × String)}

lemma knows_started (hgoals : ∀ r data, goals.get? r = some data →
      r ≠ "" ∧ ∃ goal, xy data = .ok goal ∧ targets.get? r = some goal)
    (hroutes : ∀ r data, goals.get? r = some data →
      ∃ route, routes.get? r = some route ∧ ways.get? r = some route)
    {data : List α} (hdata : goals.get? robot = some data) :
    Knows ⟨goals, routes, s.arbiter.planRoute⟩ (s.started targets ways) robot := by
  obtain ⟨hname, goal, hxy, htarget⟩ := hgoals robot data hdata
  obtain ⟨route, hroute, hway⟩ := hroutes robot data hdata
  refine ⟨hname, ⟨route.1, route.2, hway, ?_⟩, goal, htarget, ?_⟩
  · unfold Swap.aisles
    rw [hroute]
    rfl
  · unfold Swap.goal
    rw [hdata, Option.bind_some, hxy]
    rfl

lemma serialized_started
    (hfree : ∀ aisle robot, s.arbiter.occupant aisle = some robot → robot = "") :
    Serialized w s.sent ∅ ∅ (s.started targets ways) := by
  refine ⟨List.nodup_nil, fun r => ?_, Set.empty_subset _, fun r hr => ?_,
    fun aisle r hr hne => absurd (hfree aisle r hr) hne, [], (List.append_nil _).symm,
    fun r hr => ?_, fun r _ _ => rfl⟩
  · exact iff_of_false (fun h => h.elim List.not_mem_nil List.not_mem_nil)
      fun h => Set.notMem_empty r h.1
  · exact absurd hr List.not_mem_nil
  · exact (hr.elim List.not_mem_nil (Set.notMem_empty r)).elim

end Started

/-- An injection on free aisles prepares the injector and contends the aisles for every robot. -/
lemma inject_serialized (hE : E.Accept) {goals : Dict String (List α)}
    {routes : Dict String (String × String)} {s' : HeadOnInjector α τ}
    {report : List String × List String}
    (hnames : ∀ robot data, goals.get? robot = some data → robot ≠ "")
    (hfree : ∀ aisle robot, s.arbiter.occupant aisle = some robot → robot = "")
    (hinject : s.inject E goals routes = (s', .ok report)) :
    Serialized ⟨goals, routes, s.arbiter.planRoute⟩ s.sent
        (Swap.robots ⟨goals, routes, s.arbiter.planRoute⟩) ∅ s' ∧
      Prepared ⟨goals, routes, s.arbiter.planRoute⟩
        (Swap.robots ⟨goals, routes, s.arbiter.planRoute⟩) s' ∧
      s'.Moving := by
  unfold inject at hinject
  cases hgoals : goals.collect fun _ => xy with
  | error e =>
    rw [hgoals] at hinject
    cases (Prod.mk.inj hinject).2
  | ok targets =>
    rw [hgoals] at hinject
    dsimp only at hinject
    cases hroutes : goals.collect fun robot _ =>
        match routes.get? robot with
        | none => Except.error PyErr.keyError
        | some route => .ok route with
    | error e =>
      rw [hroutes] at hinject
      cases (Prod.mk.inj hinject).2
    | ok ways =>
      rw [hroutes] at hinject
      dsimp only at hinject
      have htargets : ∀ r data, goals.get? r = some data →
          r ≠ "" ∧ ∃ goal, xy data = .ok goal ∧ targets.get? r = some goal := fun r data hdata =>
        ⟨hnames r data hdata, Dict.get?_collect_of_get? hgoals hdata⟩
      have hways : ∀ r data, goals.get? r = some data →
          ∃ route, routes.get? r = some route ∧ ways.get? r = some route := by
        intro r data hdata
        obtain ⟨way, hway, hget⟩ := Dict.get?_collect_of_get? hroutes hdata
        cases hroute : routes.get? r with
        | none =>
          rw [hroute] at hway
          cases hway
        | some route =>
          rw [hroute] at hway
          obtain rfl := Except.ok.inj hway
          exact ⟨route, rfl, hget⟩
      have hprepared : Prepared ⟨goals, routes, s.arbiter.planRoute⟩ ∅ (s.started targets ways) :=
        ⟨fun r data hdata => knows_started htargets hways hdata,
          fun r hr => absurd hr (Set.notMem_empty r)⟩
      have hperm := perm_sortBy id (targets.entries.map Prod.fst)
      have hmem : ∀ r, r ∈ sortBy id (targets.entries.map Prod.fst) ↔
          ∃ data, goals.get? r = some data := fun r =>
        hperm.mem_iff.trans (Dict.mem_keys_collect hgoals)
      obtain ⟨s₁, hall, h₁, hprepared₁, hmoving₁⟩ := contendAll_serialized hE
        (serialized_started hfree) hprepared (fun h => absurd rfl h) (fun r hr => (hmem r).mp hr)
        (hperm.nodup_iff.mpr targets.nodup) fun r _ => Set.notMem_empty r
      have hset : ∅ ∪ {r | r ∈ sortBy id (targets.entries.map Prod.fst)} =
          Swap.robots ⟨goals, routes, s.arbiter.planRoute⟩ := by
        rw [Set.empty_union]
        ext r
        exact hmem r
      rw [hset] at h₁ hprepared₁
      unfold started at hall
      rw [hall] at hinject
      obtain ⟨rfl, -⟩ := Prod.mk.inj hinject
      exact ⟨h₁, hprepared₁, hmoving₁⟩

variable (E) in
/-- The robots that were under way when they reported their goal. -/
def Finished (s : HeadOnInjector α τ) (calls : List String) : Set String :=
  {r | ∃ past future, calls = past ++ r :: future ∧ r ∈ ((reports E).run s past).dispatched}

lemma finished_concat (calls : List String) (robot : String) :
    Finished E s (calls ++ [robot]) =
      {r | r ∈ Finished E s calls ∨ r = robot ∧ robot ∈ ((reports E).run s calls).dispatched} := by
  ext r
  constructor
  · rintro ⟨past, future, hsplit, hr⟩
    rcases List.eq_nil_or_concat future with rfl | ⟨future, last, rfl⟩
    · obtain ⟨rfl, hlast⟩ := List.append_inj' hsplit rfl
      obtain rfl : robot = r := List.singleton_inj.mp hlast
      exact .inr ⟨rfl, hr⟩
    · rw [List.concat_eq_append, ← List.cons_append, ← List.append_assoc] at hsplit
      obtain ⟨rfl, -⟩ := List.append_inj' hsplit rfl
      exact .inl ⟨past, future, rfl, hr⟩
  · rintro (⟨past, future, rfl, hr⟩ | ⟨rfl, hr⟩)
    · exact ⟨past, future ++ [robot], by rw [List.append_assoc, List.cons_append], hr⟩
    · exact ⟨calls, [], rfl, hr⟩

/-- The robots of an injection on free aisles pass them one after the other, whoever reports a goal
and when: the aisles of those that are under way are their own, nobody is lost or sent twice, and
somebody is under way as long as somebody waits. -/
theorem head_on_serializes (hE : E.Accept) {s s' : HeadOnInjector α τ}
    {goals : Dict String (List α)} {routes : Dict String (String × String)}
    {report : List String × List String}
    (hnames : ∀ robot data, goals.get? robot = some data → robot ≠ "")
    (hfree : ∀ aisle robot, s.arbiter.occupant aisle = some robot → robot = "")
    (hinject : s.inject E goals routes = (s', .ok report)) (calls : List String) :
    Serialized ⟨goals, routes, s.arbiter.planRoute⟩ s.sent
        (Swap.robots ⟨goals, routes, s.arbiter.planRoute⟩) (Finished E s' calls)
        ((reports E).run s' calls) ∧
      ((reports E).run s' calls).Moving := by
  obtain ⟨hserialized, hprepared, hmoving⟩ := inject_serialized hE hnames hfree hinject
  have hrun : Serialized ⟨goals, routes, s.arbiter.planRoute⟩ s.sent
      (Swap.robots ⟨goals, routes, s.arbiter.planRoute⟩) (Finished E s' calls)
      ((reports E).run s' calls) ∧
      Prepared ⟨goals, routes, s.arbiter.planRoute⟩
        (Swap.robots ⟨goals, routes, s.arbiter.planRoute⟩) ((reports E).run s' calls) ∧
      ((reports E).run s' calls).Moving := by
    refine Machine.run_history (M := reports E) (I := fun calls t =>
      Serialized ⟨goals, routes, s.arbiter.planRoute⟩ s.sent
        (Swap.robots ⟨goals, routes, s.arbiter.planRoute⟩) (Finished E s' calls) t ∧
      Prepared ⟨goals, routes, s.arbiter.planRoute⟩
        (Swap.robots ⟨goals, routes, s.arbiter.planRoute⟩) t ∧ t.Moving) ?_ ?_ calls
    · have hnone : Finished E s' [] = ∅ := by
        ext r
        refine iff_of_false ?_ (Set.notMem_empty r)
        rintro ⟨past, future, hsplit, -⟩
        exact List.append_ne_nil_of_right_ne_nil past (List.cons_ne_nil r future) hsplit.symm
      rw [hnone]
      exact ⟨hserialized, hprepared, hmoving⟩
    · rintro past robot ⟨h, hprepared, -⟩
      obtain ⟨t, next, ht, h', hprepared', hmoving'⟩ :=
        onGoalReached_serialized robot hE h hprepared
      rw [finished_concat]
      have hstep : ((reports E).step ((reports E).run s' past) robot).1 = t := congrArg Prod.fst ht
      rw [hstep]
      exact ⟨h', hprepared', hmoving'⟩
  exact ⟨hrun.1, hrun.2.2⟩

/-- Two goals on the centre line of one aisle, each with a yaw. -/
def swapGoals : Dict String (List ℕ) :=
  (Dict.empty.set "bot2" [45, 80, 157]).set "bot1" [45, 12, 157]

/-- The ways of the two robots. -/
def swapRoutes : Dict String (String × String) :=
  (Dict.empty.set "bot1" ("north", "south")).set "bot2" ("south", "north")

/-- An injector whose arbiter has no bridge and knows one aisle. -/
def swapInjector : HeadOnInjector ℕ ℕ := init (.init fun _ _ => ["route_A"])

/-- A navigator that accepts every goal. -/
def accepting : Collaborators ℕ PyErr := ⟨none, fun _ _ => .ok ()⟩

/-- The second robot waits for the first, and is under way after its report. -/
theorem head_on_serializes_swap :
    Serialized ⟨swapGoals, swapRoutes, fun _ _ => ["route_A"]⟩ []
        (Swap.robots ⟨swapGoals, swapRoutes, fun _ _ => ["route_A"]⟩)
        (Finished accepting (swapInjector.inject accepting swapGoals swapRoutes).1 ["bot1"])
        ((reports accepting).run (swapInjector.inject accepting swapGoals swapRoutes).1 ["bot1"]) ∧
      ((reports accepting).run
        (swapInjector.inject accepting swapGoals swapRoutes).1 ["bot1"]).Moving := by
  have hbridge : ∀ navigate ∈ accepting.bridge, ∀ robot destination,
      navigate robot destination = .ok () := by
    intro navigate h
    cases h
  have haccept : accepting.Accept := ⟨hbridge, fun robot goal => rfl⟩
  have hnames : ∀ robot data, swapGoals.get? robot = some data → robot ≠ "" := by
    rintro robot data h rfl
    cases h
  have hfree : ∀ aisle robot, swapInjector.arbiter.occupant aisle = some robot → robot = "" := by
    intro aisle robot h
    cases h
  have hinject : swapInjector.inject accepting swapGoals swapRoutes =
      ((swapInjector.inject accepting swapGoals swapRoutes).1, .ok (["bot1"], ["bot2"])) := rfl
  exact head_on_serializes haccept hnames hfree hinject ["bot1"]

end HeadOnInjector

end MiniatureWarehouse
