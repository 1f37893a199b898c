import Conform.Proofs.Addresses
import Mathlib.Data.List.Nodup

/-!
# The references of a run

A process asks for references one after another, for single functions and while types are taken
apart. Which of its two keys a function gets depends on who came first, yet once given the key is
settled: no entry is ever overwritten, so the registry after a request leads to every later one.

* `Request`, `Request.ask` — a function for which a reference is asked.
* `Node.references`, `Ty.requests` — what a node refers to, and what is asked for while it is made.
* `Ty.asks_toNode` — taking a type apart is nothing but those requests.
* `Functions.after`, `Functions.given` — the registry after some requests, and the reference given
  then.
* `Process.references_stay_good` — references resolve from then on, and are the functions' own.
-/

namespace Conform

/-! ## Requests -/

/-- A function for which a reference is asked. -/
inductive Request
  | coercion (f : Coercion)
  | generator (g : Generator)

namespace Request

/-- Asks for the reference. -/
def ask : Request → StateM Functions String
  | coercion f => Functions.addCoercion f
  | generator g => Functions.addGenerator g

/-- Asks for one reference after another. -/
def askAll (requests : List Request) : StateM Functions (List String) :=
  requests.mapM ask

/-- The function is found under the reference. -/
def FoundUnder (reference : String) (fs : Functions) : Request → Prop
  | coercion f => fs.coercions.get? reference = some f
  | generator g => fs.generators.get? reference = some g

/-- Both references are looked up in the same store. -/
def SameKind : Request → Request → Prop
  | coercion _, coercion _ => True
  | generator _, generator _ => True
  | _, _ => False

/-- Both ask for the same function. -/
def SameFunction : Request → Request → Prop
  | coercion f, coercion g => f == g
  | generator f, generator g => f == g
  | _, _ => False

/-- The function is one of the process. -/
def Of (P : Process) : Request → Prop
  | coercion f => P.coercions f
  | generator g => P.generators g

/-- Requests in two runs are answered as in one. -/
theorem askAll_append (requests more : List Request) (fs : Functions) :
    askAll (requests ++ more) fs =
      ((askAll requests fs).1 ++ (askAll more (askAll requests fs).2).1,
        (askAll more (askAll requests fs).2).2) := by
  rw [askAll, List.mapM_append]
  rfl

/-- The first request is answered, and the others after it. -/
theorem askAll_cons (r : Request) (more : List Request) (fs : Functions) :
    askAll (r :: more) fs =
      ((r.ask fs).1 :: (askAll more (r.ask fs).2).1, (askAll more (r.ask fs).2).2) := by
  rw [askAll, List.mapM_cons]
  rfl

/-- Every request is answered. -/
theorem length_askAll (requests : List Request) (fs : Functions) :
    (askAll requests fs).1.length = requests.length := by
  induction requests generalizing fs with
  | nil => rfl
  | cons r rest ih =>
    rw [askAll_cons]
    exact congrArg (· + 1) (ih _)

end Request

/-! ## What taking a type apart asks for -/

/-- The references in a decorator. -/
def NodeDecorator.references : NodeDecorator → List String
  | .constructor fns => fns
  | .default (.generator reference) => [reference]
  | _ => []

namespace Node

mutual

/-- The references in a node, the innermost first. -/
def references : Node → List String
  | .definition _ _ => []
  | .decorated d inner _ => inner.references ++ d.references
  | .sum left right _ => left.references ++ right.references
  | .schema _ _ _ members _ => membersReferences members
  | .array _ item _ => item.references
  | .map key value _ => key.references ++ value.references

/-- The same for the members of a schema. -/
def membersReferences : List (Value × Node) → List String
  | [] => []
  | (_, n) :: rest => n.references ++ membersReferences rest

end

end Node

/-- What the functions and the generator of a decorator are asked for. -/
def Decorator.requests : Decorator → List Request
  | .constructor fns => fns.map .coercion
  | .default (.drawn g) => [.generator g]
  | _ => []

namespace Ty

mutual

/-- What is asked for while a type is taken apart. The node of a family asks for no function. -/
def requests (withMetadata : Bool) : Ty → List Request
  | .definition _ _ => []
  | .decorated .safe (.decorated (.constructor [f]) (.schema _ _ members k) l) _ =>
    membersRequests withMetadata members ++
      if f.name == some "params.hash" && isBare withMetadata l && isBare withMetadata k then []
      else [.coercion f]
  | .decorated .safe (.decorated (.constructor [f]) (.array item k) l) _ =>
    item.requests withMetadata ++
      if f.name == some "params.array" && isBare withMetadata l && isBare withMetadata k then []
      else [.coercion f]
  | .decorated d inner _ => inner.requests withMetadata ++ d.requests
  | .sum left right _ => left.requests withMetadata ++ right.requests withMetadata
  | .schema _ _ members _ => membersRequests withMetadata members
  | .array item _ => item.requests withMetadata
  | .map key value _ => key.requests withMetadata ++ value.requests withMetadata

/-- The same for the members of a schema. -/
def membersRequests (withMetadata : Bool) : List (Value × Ty) → List Request
  | [] => []
  | (_, t) :: rest => t.requests withMetadata ++ membersRequests withMetadata rest

end

end Ty

/-! ## Taking a type apart is asking for its functions -/

/-- The computation changes the registry as the requests do, and its result and the references that
they are given are in the relation `P`. -/
def Asks {α : Type} (m : StateM Functions α) (requests : List Request)
    (P : α → List String → Prop) :
    Prop :=
  ∀ fs, P (m fs).1 (Request.askAll requests fs).1 ∧ (m fs).2 = (Request.askAll requests fs).2

namespace Asks

variable {α β : Type} {m : StateM Functions α} {requests more : List Request}
  {P : α → List String → Prop} {Q : β → List String → Prop}

theorem pure {a : α} (h : P a []) : Asks (pure a) [] P :=
  fun _ => ⟨h, rfl⟩

/-- A single request is answered with its reference. -/
theorem ask (r : Request) :
    Asks r.ask [r] fun reference references => references = [reference] := by
  intro fs
  rw [Request.askAll_cons]
  exact ⟨rfl, rfl⟩

/-- One part after the other asks for what both ask for. -/
theorem bind {f : α → StateM Functions β} (hm : Asks m requests P)
    (hf : ∀ a first, P a first → Asks (f a) more fun b rest => Q b (first ++ rest)) :
    Asks (m >>= f) (requests ++ more) Q := by
  intro fs
  obtain ⟨hP, hstate⟩ := hm fs
  obtain ⟨hQ, hstate'⟩ := hf _ _ hP (m fs).2
  rw [Request.askAll_append, ← hstate]
  exact ⟨hQ, hstate'⟩

/-- What is only put together in the end asks for nothing more. -/
theorem map {f : α → β} (hm : Asks m requests P) (hf : ∀ a references, P a references →
    Q (f a) references) : Asks (do let a ← m; Pure.pure (f a)) requests Q :=
  fun fs => ⟨hf _ _ (hm fs).1, (hm fs).2⟩

end Asks

/-- The functions of a type are asked for one by one, and nothing else is. -/
theorem Functions.asks_addCoercions (fns : List Coercion) :
    Asks (fns.mapM addCoercion) (fns.map .coercion) fun given references => references = given := by
  induction fns with
  | nil => exact .pure rfl
  | cons f rest ih =>
    rw [List.mapM_cons]
    refine (Asks.ask (.coercion f)).bind fun reference first hfirst => ih.map ?_
    rintro given - rfl
    rw [hfirst]
    rfl

/-- A decorator asks for its functions, and names them in its node. -/
theorem Decorator.asks_toNode (d : Decorator) :
    Asks d.toNode d.requests fun n references => references = n.references := by
  cases d with
  | constructor fns => exact (Functions.asks_addCoercions fns).map fun _ _ h => h
  | default d =>
    cases d with
    | fixed v => exact .pure rfl
    | drawn g => exact ((Asks.ask (.generator g)).map fun _ _ h => h).map fun _ _ h => h
  | constrained rule => exact .pure rfl
  | enumeration mapping => exact .pure rfl
  | safe => exact .pure rfl
  | maybe => exact .pure rfl

namespace Ty

variable {withMetadata : Bool} {policy : Policy} {transform : KeyTransform}
  {members : List (Value × Ty)} {item : Ty} {f : Coercion} {k l m : Metadata}

/-- The function that reads parameters is not asked for in a schema of that family. -/
theorem requests_paramsSchema (h : inFamily withMetadata
      (.decorated .safe (.decorated (.constructor [f])
        (.schema policy transform members k) l) m) = true) :
    requests withMetadata
        (.decorated .safe (.decorated (.constructor [f])
          (.schema policy transform members k) l) m) =
      membersRequests withMetadata members := by
  have hf :
      (f.name == some "params.hash" && isBare withMetadata l && isBare withMetadata k) = true := h
  rw [requests, if_pos hf, List.append_nil]

theorem requests_paramsArray (h : inFamily withMetadata
      (.decorated .safe (.decorated (.constructor [f]) (.array item k) l) m) = true) :
    requests withMetadata (.decorated .safe (.decorated (.constructor [f]) (.array item k) l) m) =
      item.requests withMetadata := by
  have hf :
      (f.name == some "params.array" && isBare withMetadata l && isBare withMetadata k) = true := h
  rw [requests, if_pos hf, List.append_nil]

/-- Outside the families, what is asked for inside a decorator comes first. -/
theorem requests_decorated {d : Decorator} {inner : Ty}
    (h : inFamily withMetadata (.decorated d inner m) = false) :
    requests withMetadata (.decorated d inner m) = inner.requests withMetadata ++ d.requests := by
  unfold inFamily at h
  split at h
  case h_1 heq =>
    cases heq
    rfl
  case h_2 heq =>
    cases heq
    rfl
  case h_3 heq =>
    cases heq
    rw [requests, if_neg (Bool.eq_false_iff.1 h)]
    simp only [requests, Decorator.requests, List.map_cons, List.map_nil, List.append_nil]
  case h_4 heq =>
    cases heq
    rw [requests, if_neg (Bool.eq_false_iff.1 h)]
    simp only [requests, Decorator.requests, List.map_cons, List.map_nil, List.append_nil]
  case h_5 hs ha hcs hca =>
    rw [requests]
    · rintro f policy transform members k l rfl rfl
      exact hcs _ _ _ _ _ _ _ rfl
    · rintro f item k l rfl rfl
      exact hca _ _ _ _ _ rfl

/-- A schema asks for what its members ask for. -/
theorem asks_membersToNodes
    (h : ∀ e ∈ members, Asks (e.2.toNode withMetadata) (e.2.requests withMetadata)
      fun n references => references = n.references) :
    Asks (membersToNodes withMetadata members) (membersRequests withMetadata members)
      fun nodes references => references = Node.membersReferences nodes := by
  induction members with
  | nil =>
    rw [membersToNodes, membersRequests]
    exact .pure rfl
  | cons e rest ih =>
    obtain ⟨ht, hrest⟩ := List.forall_mem_cons.1 h
    rw [membersToNodes, membersRequests]
    refine ht.bind fun node references hn => (ih hrest).map fun nodes more hns => ?_
    rw [hn, hns, Node.membersReferences]

/-- **Taking a type apart is asking for its functions**: the registry changes as by these requests,
and the node refers to what they are given. -/
theorem asks_toNode (withMetadata : Bool) (t : Ty) :
    Asks (t.toNode withMetadata) (t.requests withMetadata)
      fun n references => references = n.references := by
  induction t using formsInduct withMetadata with
  | definition p m =>
    rw [toNode, requests]
    exact .pure rfl
  | jsonSchema policy transform members k m hin ih =>
    have hrequests : requests withMetadata (.decorated .safe
      (.schema policy transform members k) m) =
        membersRequests withMetadata members := List.append_nil _
    rw [toNode_jsonSchema hin, hrequests]
    exact (asks_membersToNodes ih).map fun nodes references h => by rw [h, Node.references]
  | jsonArray item k m hin ih =>
    have hrequests : requests withMetadata (.decorated .safe (.array item k) m) =
        item.requests withMetadata := List.append_nil _
    rw [toNode_jsonArray hin, hrequests]
    exact ih.map fun node references h => by rw [h, Node.references]
  | paramsSchema f policy transform members k l m hin ih =>
    rw [toNode_paramsSchema hin, requests_paramsSchema hin]
    exact (asks_membersToNodes ih).map fun nodes references h => by rw [h, Node.references]
  | paramsArray f item k l m hin ih =>
    rw [toNode_paramsArray hin, requests_paramsArray hin]
    exact ih.map fun node references h => by rw [h, Node.references]
  | decorated d inner m hin ih =>
    rw [toNode_decorated hin, requests_decorated hin]
    refine ih.bind fun n references h => d.asks_toNode.map fun nd given hd => ?_
    rw [h, hd, Node.references]
  | sum left right m ihl ihr =>
    rw [toNode, requests]
    refine ihl.bind fun l references h => ihr.map fun r more hr => ?_
    rw [h, hr, Node.references]
  | schema policy transform members m ih =>
    rw [toNode, requests]
    exact (asks_membersToNodes ih).map fun nodes references h => by rw [h, Node.references]
  | array item m ih =>
    rw [toNode, requests]
    exact ih.map fun node references h => by rw [h, Node.references]
  | map key value m ihk ihv =>
    rw [toNode, requests]
    refine ihk.bind fun k references h => ihv.map fun v more hv => ?_
    rw [h, hv, Node.references]

end Ty

/-! ## What happens in a process -/

/-- A function is stored for its own sake, or a type is taken apart. -/
inductive Action
  | store (r : Request)
  | takeApart (t : Ty) (withMetadata : Bool)

namespace Action

/-- What is asked for. -/
def requests : Action → List Request
  | store r => [r]
  | takeApart t withMetadata => t.requests withMetadata

/-- The references that are handed out; those of a type are the ones in its node. -/
def run : Action → StateM Functions (List String)
  | store r => do
    let reference ← r.ask
    pure [reference]
  | takeApart t withMetadata => do
    let node ← t.toNode withMetadata
    pure node.references

/-- The references that some actions hand out, in order. -/
def runAll (actions : List Action) : StateM Functions (List String) := do
  let references ← actions.mapM run
  pure references.flatten

/-- An action asks for the functions of its types. -/
theorem asks_run (a : Action) :
    Asks a.run a.requests fun given references => references = given := by
  cases a with
  | store r => exact (Asks.ask r).map fun _ _ h => h
  | takeApart t withMetadata => exact (t.asks_toNode withMetadata).map fun _ _ h => h

/-- Actions in a row ask for what each of them asks for. -/
theorem asks_mapM_run (actions : List Action) : Asks (actions.mapM run) (actions.flatMap requests)
    fun given references => references = given.flatten := by
  induction actions with
  | nil => exact .pure rfl
  | cons a rest ih =>
    rw [List.mapM_cons, List.flatMap_cons]
    refine a.asks_run.bind fun given references h => ih.map fun more references' h' => ?_
    rw [h, h', List.flatten_cons]

/-- Actions hand out what their requests are given, and leave the same registry. -/
theorem runAll_eq (actions : List Action) :
    runAll actions = Request.askAll (actions.flatMap requests) := by
  funext fs
  obtain ⟨hgiven, hstate⟩ := asks_mapM_run actions fs
  exact Prod.ext hgiven.symm hstate

end Action

/-! ## References keep their meaning -/

namespace Functions

/-- What is found in the first registry is found in the second one too. -/
def LeadsTo (fs gs : Functions) : Prop :=
  fs.coercions.LeadsTo gs.coercions ∧ fs.generators.LeadsTo gs.generators

/-- The registry of a process after some requests. -/
def after (requests : List Request) : Functions :=
  (Request.askAll requests standard).2

/-- The reference that is given to a request after some others. -/
def given (requests : List Request) (r : Request) : String :=
  (r.ask (after requests)).1

/-- Further requests go on from where the earlier ones led. -/
theorem after_append (requests more : List Request) :
    after (requests ++ more) = (Request.askAll more (after requests)).2 := by
  rw [after, Request.askAll_append]
  rfl

/-- A run of requests can be cut at any one of them. -/
theorem after_cons (requests : List Request) (r : Request) (more : List Request) :
    after (requests ++ r :: more) = (Request.askAll more (r.ask (after requests)).2).2 := by
  rw [after_append, Request.askAll_cons]

/-- The references of a run are those that were given one after another. -/
theorem getElem?_given (requests : List Request) (r : Request) (more : List Request) :
    (Request.askAll (requests ++ r :: more) standard).1[requests.length]? =
      some (given requests r) := by
  rw [Request.askAll_append, Request.askAll_cons,
    List.getElem?_append_right (Request.length_askAll requests standard).le,
    Request.length_askAll, Nat.sub_self]
  rfl

theorem HasBuiltins.leadsTo {fs gs : Functions} (h : fs.HasBuiltins) (hle : fs.LeadsTo gs) :
    gs.HasBuiltins where
  coercions := fun b => hle.1 _ _ (h.coercions b)
  generators := fun g hg => hle.2 _ _ (h.generators g hg)

end Functions

/-- Asked again, the store refers to a thing as before: if the reference was free, it is the thing's
own by now, and if it was not, it still belongs to the other one. -/
theorem Registry.claim_again {α : Type} [BEq α] [ReflBEq α] {r s : Registry α}
    {reference address : String} {a : α} (h : (r.claim reference address a).2.LeadsTo s) :
    (s.claim reference address a).1 = (r.claim reference address a).1 := by
  cases hr : r.get? reference with
  | none =>
    simp only [claim, hr] at h ⊢
    have hs : s.get? reference = some a := h _ _ (by rw [get?_put, if_pos rfl])
    rw [hs]
    exact congrArg Prod.fst (if_pos (BEq.refl a))
  | some b =>
    by_cases hb : b == a
    · simp only [claim, hr, hb, if_true] at h ⊢
      have hs : s.get? reference = some b := h _ _ hr
      simp only [hs, hb, if_true]
    · simp only [claim, hr, hb, if_false, Bool.false_eq_true] at h ⊢
      by_cases ha : address = reference
      · have hs : s.get? reference = some a := h _ _ (by rw [get?_put, if_pos ha])
        simp only [hs, BEq.refl a, if_true, ha]
      · have hs : s.get? reference = some b := h _ _ (by rw [get?_put, if_neg ha, hr])
        simp only [hs, hb, if_false, Bool.false_eq_true]

namespace Request

variable {P : Process}

/-- One request: the function is found under the reference, and nothing that was found is lost. -/
theorem asked {r : Request} (hr : r.Of P) {fs : Functions} (hfs : P.Keeps fs) :
    P.Keeps (r.ask fs).2 ∧ fs.LeadsTo (r.ask fs).2 ∧ r.FoundUnder (r.ask fs).1 (r.ask fs).2 := by
  have hrecords : Records (.within P) r.ask fun reference gs => r.FoundUnder reference gs := by
    cases r with
    | coercion f => exact records_addCoercion P hr
    | generator g => exact records_addGenerator P hr
  obtain ⟨hgood, hlater, hfound⟩ := hrecords fs hfs
  exact ⟨hgood, hlater, hfound _ hgood ((Bookkeeping.within P).refl _)⟩

/-- Nothing that was found is lost by any requests. -/
theorem keeps_askAll {requests : List Request} (hr : ∀ r ∈ requests, r.Of P) {fs : Functions}
    (hfs : P.Keeps fs) : P.Keeps (askAll requests fs).2 ∧ fs.LeadsTo (askAll requests fs).2 := by
  induction requests generalizing fs with
  | nil => exact ⟨hfs, (Bookkeeping.within P).refl fs⟩
  | cons r rest ih =>
    obtain ⟨hkeeps, hle, -⟩ := asked (hr r List.mem_cons_self) hfs
    obtain ⟨hkeeps', hle'⟩ := ih (fun q hq => hr q (List.mem_cons_of_mem r hq)) hkeeps
    rw [askAll_cons]
    exact ⟨hkeeps', (Bookkeeping.within P).trans hle hle'⟩

/-- A request found under a reference is found under it from then on. -/
theorem FoundUnder.leadsTo {r : Request} {reference : String} {fs gs : Functions}
    (h : r.FoundUnder reference fs) (hle : fs.LeadsTo gs) : r.FoundUnder reference gs := by
  cases r with
  | coercion f => exact hle.1 _ _ h
  | generator g => exact hle.2 _ _ h

/-- A function that is asked for again has its reference already. -/
theorem ask_again {r : Request} {fs gs : Functions} (hle : (r.ask fs).2.LeadsTo gs) :
    (r.ask gs).1 = (r.ask fs).1 := by
  cases r with
  | coercion f => exact Registry.claim_again hle.1
  | generator g => exact Registry.claim_again hle.2

/-- Functions of a process are told apart by what they are equal to. -/
theorem SameFunction.eq {r s : Request} (h : r.SameFunction s) (hr : r.Of P) (hs : s.Of P) :
    r = s := by
  cases r <;> cases s
  case coercion.coercion f g =>
    exact congrArg coercion (P.addressedCoercions.distinct hr hs ((Coercion.beq_iff f g).1 h))
  case generator.generator f g =>
    exact congrArg generator (P.addressedGenerators.distinct hr hs ((Generator.beq_iff f g).1 h))
  all_goals exact h.elim

/-- Under one reference there is one function of each kind. -/
theorem FoundUnder.sameFunction {r s : Request} {reference : String} {fs : Functions}
    (hr : r.FoundUnder reference fs) (hs : s.FoundUnder reference fs) (hk : r.SameKind s) :
    r.SameFunction s := by
  cases r <;> cases s
  case coercion.coercion f g =>
    obtain rfl : f = g := Option.some.inj (hr.symm.trans hs)
    exact BEq.refl f
  case generator.generator f g =>
    obtain rfl : f = g := Option.some.inj (hr.symm.trans hs)
    exact BEq.refl f
  all_goals exact hk.elim

end Request

namespace Process

variable (P : Process)

open Functions Request

section Run

variable {P} {earlier between : List Request} {r : Request}

/-- The function of a request is found right after it, and what is found then is found later. -/
theorem found_after (hstart : P.Keeps standard) (h : ∀ q ∈ earlier ++ r :: between, q.Of P) :
    r.FoundUnder (given earlier r) (r.ask (after earlier)).2 ∧
      (r.ask (after earlier)).2.LeadsTo (after (earlier ++ r :: between)) := by
  obtain ⟨hearlier, hrest⟩ := List.forall_mem_append.1 h
  obtain ⟨hr, hbetween⟩ := List.forall_mem_cons.1 hrest
  obtain ⟨hkeeps, -, hfound⟩ := asked hr (keeps_askAll hearlier hstart).1
  rw [after_cons]
  exact ⟨hfound, (keeps_askAll hbetween hkeeps).2⟩

/-- The next request of a kind is given the reference of an earlier one if the functions are the
same, and only then. -/
theorem given_eq_iff (hstart : P.Keeps standard) (h : ∀ q ∈ earlier ++ r :: between, q.Of P)
    {s : Request} (hs : s.Of P) (hk : r.SameKind s) :
    given (earlier ++ r :: between) s = given earlier r ↔ r.SameFunction s := by
  obtain ⟨hfound, hle⟩ := found_after hstart h
  constructor
  · intro heq
    obtain ⟨-, hle', hfound'⟩ := asked hs (keeps_askAll h hstart).1
    have hr := hfound.leadsTo ((Bookkeeping.within P).trans hle hle')
    exact hr.sameFunction (heq ▸ hfound') hk
  · intro hsame
    obtain rfl := hsame.eq (h r (List.mem_append_right _ List.mem_cons_self)) hs
    exact ask_again hle

end Run

/-- **References stay good** in every run of a process that starts with the built-in functions.
Every request is given one reference.  Whatever was asked for `before`, all built-in functions are
found under their names and the function of an earlier request under the reference that it was
given, and the next request of that kind is given this reference exactly if it asks for the same
function. -/
theorem references_stay_good (hc : ∀ f ∈ Coercion.builtins, P.coercions f)
    (hg : ∀ g ∈ Generator.builtins, P.generators g) {actions : List Action}
    (hactions : ∀ a ∈ actions, ∀ r ∈ a.requests, r.Of P) :
    let requests := actions.flatMap Action.requests
    let references := (Action.runAll actions standard).1
    (Action.runAll actions standard).2 = after requests ∧ references.length = requests.length ∧
      ∀ before rest, requests = before ++ rest →
        (after before).HasBuiltins ∧
        ∀ earlier r between, before = earlier ++ r :: between →
          references[earlier.length]? = some (given earlier r) ∧
          r.FoundUnder (given earlier r) (after before) ∧
          ∀ s more, rest = s :: more → r.SameKind s →
            (given before s = given earlier r ↔ r.SameFunction s) := by
  intro requests references
  have hstart := P.keeps_standard hc hg
  have hrequests : ∀ r ∈ requests, r.Of P := by
    intro r hr
    obtain ⟨a, ha, hra⟩ := List.mem_flatMap.1 hr
    exact hactions a ha r hra
  have hrun : Action.runAll actions standard = askAll requests standard :=
    congrFun (Action.runAll_eq actions) standard
  refine ⟨congrArg Prod.snd hrun, ?_, ?_⟩
  · exact (congrArg (·.1.length) hrun).trans (length_askAll requests standard)
  · intro before rest heq
    have hbefore : ∀ r ∈ before, r.Of P := fun r hr =>
      hrequests r (heq ▸ List.mem_append_left rest hr)
    refine ⟨hasBuiltins_standard.leadsTo (keeps_askAll hbefore hstart).2, ?_⟩
    rintro earlier r between rfl
    obtain ⟨hfound, hle⟩ := found_after hstart hbefore
    refine ⟨?_, hfound.leadsTo hle, ?_⟩
    · show (Action.runAll actions standard).1[_]? = _
      rw [hrun, heq, List.append_assoc]
      exact getElem?_given earlier r (between ++ rest)
    · rintro s more rfl hk
      have hs : s.Of P := hrequests s (heq ▸ List.mem_append_right _ List.mem_cons_self)
      exact given_eq_iff hstart hbefore hs hk

/-- Functions with addresses of their own, none of them a name of one of them, are told apart. -/
theorem addressed_mem {α : Type} {address : α → String} {name : α → Option String} {l : List α}
    (hd : (l.map address).Nodup) (hn : ∀ n ∈ l.filterMap name, n ∉ l.map address) :
    Addressed address name (· ∈ l) where
  distinct := fun hf hg h => List.inj_on_of_nodup_map hd hf hg h
  nameless := fun hf hg h => hn _ (List.mem_filterMap.2 ⟨_, hf, h⟩) (List.mem_map_of_mem hg)

/-- A process with the built-in functions and three more: one passes for a built-in function and two
share a name. -/
def crowded : Process where
  coercions := (· ∈ ⟨"fn_0", some "params.integer", .ok⟩ :: ⟨"fn_1", some "twin", .ok⟩ ::
    ⟨"fn_2", some "twin", .ok⟩ :: Coercion.builtins)
  generators := (· ∈ Generator.builtins)
  addressedCoercions := addressed_mem (by decide +kernel) (by decide +kernel)
  addressedGenerators := addressed_mem (by decide +kernel) (by decide +kernel)

/-- The twin that comes second gets a reference of its own, and no built-in function is lost to the
one that has its name. -/
theorem references_stay_good_crowded :
    let shadow : Coercion := ⟨"fn_0", some "params.integer", .ok⟩
    let twin : Request := .coercion ⟨"fn_1", some "twin", .ok⟩
    let other : Request := .coercion ⟨"fn_2", some "twin", .ok⟩
    let actions : List Action := [.store twin,
      .takeApart (.decorated (.constructor [shadow]) (.definition .any []) []) true, .store other]
    (∀ f ∈ Coercion.builtins, crowded.coercions f) ∧
    (∀ g ∈ Generator.builtins, crowded.generators g) ∧
      (∀ a ∈ actions, ∀ r ∈ a.requests, r.Of crowded) ∧
      (after [twin, .coercion shadow]).HasBuiltins ∧
      twin.FoundUnder (given [] twin) (after [twin, .coercion shadow]) ∧
      given [twin, .coercion shadow] other ≠ given [] twin := by
  intro shadow twin other actions
  have hc : ∀ f ∈ Coercion.builtins, crowded.coercions f := fun f hf => by simp [crowded, hf]
  have hg : ∀ g ∈ Generator.builtins, crowded.generators g := fun g hg => hg
  have hactions : ∀ a ∈ actions, ∀ r ∈ a.requests, r.Of crowded := by
    simp [actions, twin, other, shadow, Action.requests, Ty.requests, Decorator.requests, Of,
      crowded]
  obtain ⟨-, -, h⟩ := crowded.references_stay_good hc hg hactions
  obtain ⟨hbuiltins, hearlier⟩ := h [twin, .coercion shadow] [other] rfl
  obtain ⟨-, hfound, hnext⟩ := hearlier [] twin [.coercion shadow] rfl
  refine ⟨hc, hg, hactions, hbuiltins, hfound, ?_⟩
  rw [ne_eq, hnext other [] rfl trivial]
  exact (by decide : ¬ ("fn_1" == "fn_2") = true)

end Process

end Conform
