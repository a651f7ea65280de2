import Mathlib
import PathRouter.Proofs.Service.Table
import PathRouter.Service.Config
/-!
# The table that a service is built into

A service is made by calls in any order: registrations for one method or for all, of declared paths or of regular
expressions, and calls that set other parts.  `build` shares the matchers of equal texts and keeps the routes of all
methods in one table.  Specification of what comes out of it: each registration is taken by itself, its pattern made by
a factory of its own (`Registering.alone`), and a request goes to the first registration that answers it
(`Registering.answer?`).

The main statement is `resolve_ofCalls`.  It rests on `buildTable_ok`: what is pushed to the table are the pending routes,
one for one, each with the matcher that its text alone gives.
-/
namespace PathRouter

/-- What a new factory makes of a text. -/
def RouteSource.alone : RouteSource → Except RouteError Matcher
  | .path t => (({} : RouteFactory).create t).2
  | .regex t => (({} : RouteFactory).createFromPattern t).2

/-! ## Calls that make a service -/

inductive Registering where
  | on (m : Method) (path : String) (handler : Handler)
  | onAll (path : String) (handler : Handler)
  | onRegex (m : Method) (pattern : String) (handler : Handler)
  | onAllRegex (pattern : String) (handler : Handler)

/-- A call that makes a service from the one before. -/
inductive BuilderCall where
  | register (c : Registering)
  | install (m : Middleware)
  | setNotFound (handler : Handler)
  | setNotFoundPage (page : String)

namespace Registering

def methods : Registering → List Method
  | .on m _ _ | .onRegex m _ _ => [m]
  | .onAll _ _ | .onAllRegex _ _ => Method.all

def source : Registering → RouteSource
  | .on _ path _ | .onAll path _ => .path path
  | .onRegex _ pattern _ | .onAllRegex pattern _ => .regex pattern

def handler : Registering → Handler
  | .on _ _ h | .onAll _ h | .onRegex _ _ h | .onAllRegex _ h => h

def text (c : Registering) : String :=
  match c.source with
  | .path t | .regex t => t

def apply (s : Service) : Registering → Service
  | .on m path h => s.on m path h
  | .onAll path h => s.onAll path h
  | .onRegex m pattern h => s.onRegex m pattern h
  | .onAllRegex pattern h => s.onAllRegex pattern h

/-- What a new factory makes of the text. -/
def alone (c : Registering) : Except RouteError Matcher :=
  c.source.alone

/-- What the registration by itself answers a request for `m`. -/
def answer? (c : Registering) (m : Method) (path : String) : Option ParsedRoute :=
  if m ∈ c.methods then c.alone.toOption.bind (·.matchPath path) else none

theorem nodup_methods (c : Registering) : c.methods.Nodup := by
  cases c <;> simp [methods, Method.all]

end Registering

namespace BuilderCall

def apply (s : Service) : BuilderCall → Service
  | .register c => c.apply s
  | .install m => s.install m
  | .setNotFound h => s.setNotFound h
  | .setNotFoundPage page => s.setNotFoundPage page

def registering? : BuilderCall → Option Registering
  | .register c => some c
  | _ => none

def registered (calls : List BuilderCall) : List Registering :=
  calls.filterMap registering?

theorem registered_append (calls calls' : List BuilderCall) :
    registered (calls ++ calls') = registered calls ++ registered calls' :=
  List.filterMap_append

end BuilderCall

def Service.ofCalls (calls : List BuilderCall) : Service :=
  calls.foldl BuilderCall.apply {}

namespace Service

open BuilderCall (registered registered_append)

theorem registrations_apply (s : Service) (c : BuilderCall) :
    (c.apply s).registrations =
      s.registrations ++ (registered [c]).map (fun r => ⟨r.methods, r.source, r.handler⟩) := by
  cases c with
  | register c => cases c <;> rfl
  | install m => exact (List.append_nil _).symm
  | setNotFound h => exact (List.append_nil _).symm
  | setNotFoundPage page => exact (List.append_nil _).symm

theorem registrations_foldl : ∀ (calls : List BuilderCall) (s : Service),
    (calls.foldl BuilderCall.apply s).registrations =
      s.registrations ++ (registered calls).map (fun r => ⟨r.methods, r.source, r.handler⟩)
  | [], s => (List.append_nil _).symm
  | c :: calls, s => by
    rw [List.foldl_cons, registrations_foldl calls, registrations_apply, List.append_assoc, ← List.map_append]
    rw [← registered_append]
    rfl

theorem pending_ofCalls (calls : List BuilderCall) :
    (ofCalls calls).pending = (registered calls).zipIdx.flatMap (fun (c, i) =>
      c.methods.map (fun m => ⟨i, m, c.source, c.handler⟩)) := by
  have h := registrations_foldl calls {}
  unfold pending ofCalls
  rw [h]
  show List.flatMap _ (List.zipIdx (List.map _ _)) = _
  rw [List.zipIdx_map, List.flatMap_map]
  rfl

/-! ## Matchers, alone and shared -/

/-- A factory makes the same of a text whatever it has made before. -/
theorem make_snd (f : RouteFactory) (source : RouteSource) : (f.make source).2 = source.alone := by
  cases source <;> rfl

def Faithful (made : List (RouteSource × Shared Matcher)) : Prop :=
  ∀ p ∈ made, p.1.alone = .ok p.2.value

theorem mem_of_lookup {made : List (RouteSource × Shared Matcher)} {source : RouteSource} {m : Shared Matcher}
    (h : made.lookup source = some m) : (source, m) ∈ made := by
  induction made with
  | nil => cases h
  | cons p made ih =>
    obtain ⟨k, v⟩ := p
    rw [List.lookup_cons] at h
    split at h
    · rename_i hk
      obtain rfl := eq_of_beq hk
      obtain rfl := Option.some.inj h
      exact List.mem_cons_self
    · exact List.mem_cons_of_mem _ (ih h)

/-- **What sharing does**: it finds the matcher of a text, or makes a new one with the next number. -/
theorem share_cases {w w' : Workshop} {source : RouteSource} {m : Shared Matcher} (h : w.share source = .ok (m, w')) :
    w.made.lookup source = some m ∧ w' = w ∨
    w.made.lookup source = none ∧ source.alone = .ok m.value ∧ m.id = w.made.length ∧
      w'.made = w.made ++ [(source, m)] := by
  unfold Workshop.share at h
  split at h
  · rename_i m' hl
    obtain ⟨rfl, rfl⟩ := Prod.mk.inj (Except.ok.inj h)
    exact .inl ⟨hl, rfl⟩
  · rename_i hl
    split at h
    · cases h
    · rename_i f v hmake
      obtain ⟨rfl, rfl⟩ := Prod.mk.inj (Except.ok.inj h)
      have halone := make_snd w.factory source
      rw [hmake] at halone
      exact .inr ⟨hl, halone.symm, rfl, rfl⟩

/-- **Sharing gives every text the matcher it has alone**, and keeps what was made so. -/
theorem share_ok {w w' : Workshop} {source : RouteSource} {m : Shared Matcher} (hf : Faithful w.made)
    (h : w.share source = .ok (m, w')) : source.alone = .ok m.value ∧ Faithful w'.made := by
  rcases share_cases h with ⟨hl, rfl⟩ | ⟨-, hm, -, hmade⟩
  · exact ⟨hf _ (mem_of_lookup hl), hf⟩
  · refine ⟨hm, fun p hp => ?_⟩
    rw [hmade] at hp
    rcases List.mem_append.1 hp with hp | hp
    · exact hf p hp
    · obtain rfl := List.mem_singleton.1 hp
      exact hm

/-- A route that is pushed to a table is that of a pending route. -/
def Enters (e : Method × RouteEntry) (r : PendingRoute) : Prop :=
  e.1 = r.method ∧ e.2.registration = r.registration ∧ e.2.handler = r.handler ∧
    r.source.alone = .ok e.2.matcher.value

/-- **Building pushes the pending routes to the table, one for one and in order.** -/
theorem buildTable_ok : ∀ {rs : List PendingRoute} {w : Workshop} {t t' : RouteTable},
    Faithful w.made → buildTable w t rs = .ok t' → ∃ es, t' = t.pushAll es ∧ List.Forall₂ Enters es rs
  | [], _, t, t', _, h => ⟨[], (Except.ok.inj h).symm, .nil⟩
  | r :: rs, w, t, t', hf, h => by
    rw [buildTable] at h
    split at h
    · cases h
    · rename_i m w' hs
      obtain ⟨hm, hf'⟩ := share_ok hf hs
      obtain ⟨es, ht', hes⟩ := buildTable_ok hf' h
      exact ⟨(r.method, ⟨r.registration, m, r.handler⟩) :: es, ht', .cons ⟨rfl, rfl, rfl, hm⟩ hes⟩

theorem build_ok {s : Service} {d : Dispatcher} (h : s.build = .ok d) :
    ∃ es, d.table = RouteTable.pushAll {} es ∧ List.Forall₂ Enters es s.pending := by
  unfold build at h
  split at h
  · cases h
  · rename_i t ht
    obtain rfl := Except.ok.inj h
    exact buildTable_ok (fun p hp => by cases hp) ht

/-! ## The first registration that answers -/

/-- The entry of a table that the registration with number `i` stands behind. -/
structure IsEntryOf (e : RouteEntry) (c : Registering × Nat) : Prop where
  registration : e.registration = c.2
  handler : e.handler = c.1.handler
  matcher : c.1.alone = .ok e.matcher.value

theorem filter_methods {α : Type} (f : Method → α) (m : Method) : ∀ {ms : List Method}, ms.Nodup →
    (ms.filter (· == m)).map f = if m ∈ ms then [f m] else []
  | [], _ => rfl
  | n :: ms, h => by
    obtain ⟨hn, hms⟩ := List.nodup_cons.1 h
    by_cases hm : n = m
    · subst hm
      have hnil : ms.filter (· == n) = [] := List.filter_eq_nil_iff.2 (fun x hx hxn => hn (eq_of_beq hxn ▸ hx))
      simp [hnil]
    · rw [List.filter_cons_of_neg (by simpa using hm), filter_methods f m hms]
      simp [Ne.symm hm]

/-- The routes for one method are those of the registrations for it, in order. -/
theorem filter_pending (m : Method) : ∀ (cs : List (Registering × Nat)),
    (cs.flatMap (fun (c, i) => c.methods.map (fun m => PendingRoute.mk i m c.source c.handler))).filter
        (·.method == m) =
      (cs.filter (fun p => decide (m ∈ p.1.methods))).map (fun p => ⟨p.2, m, p.1.source, p.1.handler⟩)
  | [] => rfl
  | (c, i) :: cs => by
    rw [List.flatMap_cons, List.filter_append, filter_pending m cs, List.filter_map, Function.comp_def,
      filter_methods _ m c.nodup_methods]
    by_cases hm : m ∈ c.methods <;> simp [hm]

theorem forall₂_routesFor {calls : List BuilderCall} {d : Dispatcher} (h : (ofCalls calls).build = .ok d)
    (m : Method) :
    List.Forall₂ IsEntryOf (d.table.routesFor m)
      ((registered calls).zipIdx.filter (fun p => decide (m ∈ p.1.methods))) := by
  obtain ⟨es, htable, hall⟩ := build_ok h
  have hfilter : List.Forall₂ Enters (es.filter (·.1 == m)) ((ofCalls calls).pending.filter (·.method == m)) :=
    List.rel_filter (fun _ _ he => by simp only [he.1]) hall
  rw [pending_ofCalls, filter_pending, List.forall₂_map_right_iff] at hfilter
  have hroutes : d.table.routesFor m = (es.filter (·.1 == m)).map (·.2) := by
    rw [htable, RouteTable.routesFor_pushAll]
    rfl
  rw [hroutes, List.forall₂_map_left_iff]
  refine hfilter.imp (fun e p he => ?_)
  obtain ⟨-, hr, hh, hm⟩ := he
  exact ⟨hr, hh, hm⟩

theorem answer?_of_mem {c : Registering} {m : Method} {v : Matcher} {path : String} (hm : m ∈ c.methods)
    (hv : c.alone = .ok v) : c.answer? m path = v.matchPath path := by
  rw [Registering.answer?, if_pos hm, hv]
  rfl

/-- **A scan of the entries of registrations is a scan of the registrations.**  Both stop at the first that answers, or
neither finds one. -/
theorem scan_entries (m : Method) (path : String) : ∀ {cs : List Registering} {k : Nat} {es : List RouteEntry},
    List.Forall₂ IsEntryOf es ((cs.zipIdx k).filter (fun p => decide (m ∈ p.1.methods))) →
      (es.findSome? (fun e => (e.matcher.value.matchPath path).map (fun r => (e, r))) = none ∧
        ∀ c ∈ cs, c.answer? m path = none) ∨
      ∃ before c after e r, cs = before ++ c :: after ∧
        es.findSome? (fun e => (e.matcher.value.matchPath path).map (fun r => (e, r))) = some (e, r) ∧
        (∀ b ∈ before, b.answer? m path = none) ∧ c.answer? m path = some r ∧ IsEntryOf e (c, k + before.length)
  | [], _, _, h => by
    obtain rfl := List.forall₂_nil_right_iff.1 h
    exact .inl ⟨rfl, fun c hc => by cases hc⟩
  | c :: cs, k, es, h => by
    rw [List.zipIdx_cons] at h
    by_cases hm : m ∈ c.methods
    · rw [List.filter_cons_of_pos (by simpa using hm)] at h
      cases h with
      | cons he hes =>
        rename_i e es
        have ha : c.answer? m path = e.matcher.value.matchPath path := answer?_of_mem hm he.matcher
        cases hp : e.matcher.value.matchPath path with
        | some r =>
          exact .inr ⟨[], c, cs, e, r, rfl, by simp [hp], (fun b hb => by cases hb), ha.trans hp, he⟩
        | none =>
          rcases scan_entries m path hes with ⟨hn, hcs⟩ | ⟨before, c', after, e', r, rfl, hf, hb, hc, he'⟩
          · exact .inl ⟨by simp [hp, hn], List.forall_mem_cons.2 ⟨ha.trans hp, hcs⟩⟩
          · refine .inr ⟨c :: before, c', after, e', r, rfl, by simp [hp, hf],
              List.forall_mem_cons.2 ⟨ha.trans hp, hb⟩, hc, ?_⟩
            rw [List.length_cons, Nat.add_comm before.length, ← Nat.add_assoc]
            exact he'
    · -- Registered for other methods: it has no entry here and answers nothing.
      rw [List.filter_cons_of_neg (by simpa using hm)] at h
      have ha : c.answer? m path = none := if_neg hm
      rcases scan_entries m path h with ⟨hn, hcs⟩ | ⟨before, c', after, e, r, rfl, hf, hb, hc, he⟩
      · exact .inl ⟨hn, List.forall_mem_cons.2 ⟨ha, hcs⟩⟩
      · refine .inr ⟨c :: before, c', after, e, r, rfl, hf, List.forall_mem_cons.2 ⟨ha, hb⟩, hc, ?_⟩
        rw [List.length_cons, Nat.add_comm before.length, ← Nat.add_assoc]
        exact he

theorem source_of_alone {c : Registering} {v : Matcher} (h : c.alone = .ok v) : v.pattern.source = c.text := by
  unfold Registering.alone at h
  unfold Registering.text
  cases hs : c.source with
  | path t =>
    rw [hs] at h
    obtain ⟨_, _, _, _, rfl⟩ := Matcher.ofPath_eq_ok (RouteFactory.record_eq_ok.1 h)
    rfl
  | regex t =>
    rw [hs] at h
    obtain ⟨_, _, rfl⟩ := Matcher.ofRegex_eq_ok (RouteFactory.record_eq_ok.1 h)
    rfl

theorem length_pending_ofCalls (calls : List BuilderCall) :
    (ofCalls calls).pending.length = ((registered calls).map (·.methods.length)).sum := by
  rw [pending_ofCalls, List.length_flatMap]
  simp only [List.length_map]
  rw [← List.zipIdx_map_fst 0 (registered calls), List.map_map]
  simp [Function.comp_def]

/-- **First match wins**, through the whole builder.  Take any calls that make a service, the table that the service is
built into, and the registrations among the calls.  A request resolves to nothing exactly when its method is none or no
registration answers it by itself.  Otherwise it resolves to the entry of the earliest registration that answers it,
with that registration's text, handler, matcher and answer.  The routes of a method are the registrations for it, in
order, and the table is as large as the service counts its routes. -/
theorem resolve_ofCalls {calls : List BuilderCall} {d : Dispatcher} (h : (ofCalls calls).build = .ok d) :
    (∀ method path, d.table.resolve method path = none ↔
      ∀ m, Method.ofText? method = some m → ∀ c ∈ registered calls, c.answer? m path = none) ∧
    (∀ method path e r, d.table.resolve method path = some (e, r) →
      ∃ m before c after, Method.ofText? method = some m ∧ registered calls = before ++ c :: after ∧
        (∀ b ∈ before, b.answer? m path = none) ∧ c.answer? m path = some r ∧
        e.source = c.text ∧ IsEntryOf e (c, before.length)) ∧
    (∀ m, List.Forall₂ IsEntryOf (d.table.routesFor m)
      ((registered calls).zipIdx.filter (fun p => decide (m ∈ p.1.methods)))) ∧
    d.table.size = (ofCalls calls).routeCount ∧
    (ofCalls calls).routeCount = ((registered calls).map (·.methods.length)).sum := by
  have hscan : ∀ m path, _ := fun m path => scan_entries m path (forall₂_routesFor h m)
  have hsize : d.table.size = (ofCalls calls).routeCount := by
    obtain ⟨es, htable, hall⟩ := build_ok h
    rw [htable, RouteTable.size_pushAll, routeCount, ← hall.length_eq]
    exact Nat.zero_add _
  refine ⟨fun method path => ?_, fun method path e r hr => ?_, forall₂_routesFor h, hsize,
    length_pending_ofCalls calls⟩
  · unfold RouteTable.resolve
    cases Method.ofText? method with
    | none => simp
    | some m =>
      rcases hscan m path with ⟨hn, hcs⟩ | ⟨before, c, after, e, r, hc, hf, -, ha, -⟩
      · simp only [hn, true_iff]
        exact fun m' hm' => Option.some.inj hm' ▸ hcs
      · simp only [hf, reduceCtorEq, false_iff]
        intro hall
        rw [hall m rfl c (hc ▸ List.mem_append_right _ List.mem_cons_self)] at ha
        cases ha
  · unfold RouteTable.resolve at hr
    split at hr
    · cases hr
    · rename_i m hm
      rcases hscan m path with ⟨hn, -⟩ | ⟨before, c, after, e', r', hc, hf, hb, ha, he⟩
      · rw [hn] at hr; cases hr
      · rw [hf] at hr
        obtain ⟨rfl, rfl⟩ := Prod.mk.inj (Option.some.inj hr)
        rw [Nat.zero_add] at he
        exact ⟨m, before, c, after, hm, hc, hb, ha, source_of_alone he.matcher, he⟩

/-- One text as a declared path and as an expression, twice, behind a group that takes everything. -/
def overlappingCalls : List BuilderCall :=
  let answer (text : String) : Handler := fun _ resp => ⟨resp.writeText text, none⟩
  [.register (.onAllRegex "/(.*)" (answer "any")), .register (.on .get "/one" (answer "path")), .setNotFoundPage "",
    .register (.onRegex .get "/one" (answer "regex")), .register (.on .get "/one" (answer "again"))]

theorem toOption_alone {path compiled : String} (h : Route.compile path = .ok compiled) :
    (RouteSource.path path).alone.toOption =
      (Pattern.ofText? compiled).map (fun e => ⟨.declared path compiled, e⟩) := by
  show (RouteFactory.record (Matcher.ofPath path)).2.toOption = _
  rw [Matcher.ofPath, h]
  dsimp only [bind, Except.bind]
  cases Pattern.ofText? compiled <;> rfl

/-- All registrations answer one request, and it resolves to the first of them. -/
theorem resolve_overlappingCalls : ∃ d e r, (ofCalls overlappingCalls).build = .ok d ∧ d.table.size = 7 ∧
    (∀ path, d.table.resolve "PATCH" path = none) ∧
    (∀ c ∈ registered overlappingCalls, c.answer? .get "/one" ≠ none) ∧
    d.table.resolve "get" "/one" = some (e, r) ∧ e.source = "/(.*)" ∧ r.splat = ["one"] := by
  have hregex : (RouteSource.regex "/(.*)").alone.toOption.bind (·.matchPath "/one") =
      some ⟨∅, ["one"], ["/one", "one"]⟩ := by cbv
  have hpath : (RouteSource.path "/one").alone.toOption.bind (·.matchPath "/one") = some ⟨∅, [], ["/one"]⟩ := by
    have hcompile : Route.compile "/one" = .ok "^/one$" := by decide +kernel
    rw [toOption_alone hcompile]
    cbv
  have hplain : (RouteSource.regex "/one").alone.toOption.bind (·.matchPath "/one") = some ⟨∅, [], ["/one"]⟩ := by cbv
  have hall : ∀ c ∈ registered overlappingCalls, c.answer? .get "/one" ≠ none := by
    refine List.forall_mem_cons.2 ⟨?_, List.forall_mem_cons.2 ⟨?_, List.forall_mem_cons.2 ⟨?_,
      List.forall_mem_singleton.2 ?_⟩⟩⟩
    · exact ne_of_eq_of_ne ((if_pos (by decide)).trans hregex) (Option.some_ne_none _)
    · exact ne_of_eq_of_ne ((if_pos (by decide)).trans hpath) (Option.some_ne_none _)
    · exact ne_of_eq_of_ne ((if_pos (by decide)).trans hplain) (Option.some_ne_none _)
    · exact ne_of_eq_of_ne ((if_pos (by decide)).trans hpath) (Option.some_ne_none _)
  cases hb : (ofCalls overlappingCalls).build with
  | error f =>
    have hok : (ofCalls overlappingCalls).build.toOption.isSome = true := by decide +kernel
    rw [hb] at hok
    cases hok
  | ok d =>
    obtain ⟨hnone, hsome, -, hsize, -⟩ := resolve_ofCalls hb
    have hpatch : ∀ path, d.table.resolve "PATCH" path = none := fun path => by
      have hmethod : Method.ofText? "PATCH" = none := by decide
      refine (hnone "PATCH" path).2 (fun m hm => ?_)
      rw [hmethod] at hm
      cases hm
    have hget : Method.ofText? "get" = some .get := by decide
    cases hresolve : d.table.resolve "get" "/one" with
    | none => exact absurd ((hnone "get" "/one").1 hresolve .get hget _ List.mem_cons_self) (hall _ List.mem_cons_self)
    | some f =>
      obtain ⟨e, r⟩ := f
      obtain ⟨m, before, c, after, hm, hsplit, hbefore, hc, hsource, -⟩ := hsome "get" "/one" e r hresolve
      obtain rfl := Option.some.inj (hget.symm.trans hm)
      -- All of them answer, so none stands before the one that is found.
      cases before with
      | cons b before => exact absurd (hbefore b List.mem_cons_self) (hall b (hsplit ▸ List.mem_cons_self))
      | nil =>
        obtain rfl := (List.cons.inj hsplit).1
        obtain rfl := Option.some.inj (((if_pos (by decide)).trans hregex).symm.trans hc)
        exact ⟨d, e, _, rfl, hsize.trans rfl, hpatch, hall, hresolve, hsource, rfl⟩

end Service
end PathRouter
