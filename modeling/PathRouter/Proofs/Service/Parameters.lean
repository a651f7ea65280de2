import PathRouter.Proofs.Http.Params
import PathRouter.Proofs.Service.Stages
/-!
# The parameters of a request

The first stage finds the parameters of the query in the request, and after them those of a posted form, so that the
form counts where both have a key.  `last_pair_counts` puts this down to texts alone: it is the one text of both, with
an ampersand between, that is read.
-/
namespace PathRouter

theorem Method.ofText?_eq_post_iff {name : String} :
    Method.ofText? name = some .post ↔ Text.upper name.toList = "POST".toList := by
  constructor
  · intro h
    have hname := List.find?_some h
    exact (beq_iff_eq.1 hname).symm
  · intro h
    rw [ofText?, h]
    decide

/-- What follows the first question mark of a target; without one it is empty. -/
def queryText (url : String) : String :=
  String.ofList ((url.toList.dropWhile (· != '?')).drop 1)

theorem params_queryText (url : String) : (splitUrl url).2.elim ∅ Params.parse = Params.parse (queryText url) := by
  unfold splitUrl queryText
  by_cases hm : '?' ∈ url.toList
  · obtain ⟨path, query, hurl, hpath⟩ := List.eq_append_cons_of_mem hm
    have hspan := span_append hpath query
    rw [List.span_eq_takeWhile_dropWhile] at hspan
    rw [hurl, cutAt_append hpath, (Prod.mk.inj hspan).2]
    rfl
  · have hspan := span_of_notMem hm
    rw [List.span_eq_takeWhile_dropWhile] at hspan
    rw [cutAt_of_notMem hm, (Prod.mk.inj hspan).2]
    rfl

namespace Incoming

variable {inc : Incoming} {form : String}

/-- The request posts a form: a body that is not empty and is the bytes of this text. -/
structure Posts (inc : Incoming) (form : String) : Prop where
  method : Text.upper inc.method.toList = "POST".toList
  nonempty : inc.body ≠ []
  body : inc.body = Text.toBytes form

theorem params_of_posts (h : inc.Posts form) : inc.params = Params.parse (queryText inc.url ++ "&" ++ form) := by
  have hpost : Method.ofText? inc.method = some .post ∧ inc.body ≠ [] :=
    ⟨Method.ofText?_eq_post_iff.2 h.method, h.nonempty⟩
  unfold params
  rw [if_pos hpost, Text.ofBytes?_eq_some_iff.2 h.body, params_queryText]
  exact (Params.parseInto_append _ _ _).symm

theorem params_of_not_posts (h : ∀ form, ¬ inc.Posts form) : inc.params = Params.parse (queryText inc.url) := by
  unfold params
  rw [params_queryText]
  split
  · rename_i hpost
    split
    · rename_i form hform
      exact absurd ⟨Method.ofText?_eq_post_iff.1 hpost.1, hpost.2, Text.ofBytes?_eq_some_iff.1 hform⟩ (h form)
    · rfl
  · rfl

end Incoming

open Params (parse parseInto LastSays Silent)

/-- **The last pair counts, in one text or several.**  After a text has been read into parameters, each key has the value
of the last pair for it, or what it had where there is none.  Two texts read like one with an ampersand between.  So the
parameters that the first stage of a dispatch is given are those of one text: the query, and after it the form if one is
posted. -/
theorem last_pair_counts :
    (∀ raw m key value, (parseInto raw m).get? key = some value ↔
      LastSays raw key value ∨ Silent raw key ∧ m.get? key = some value) ∧
    (∀ a b m, parseInto (a ++ "&" ++ b) m = parseInto b (parseInto a m)) ∧
    ∀ (d : Dispatcher) (requestId : String) (inc : Incoming),
      (∃ first req resp, d.pipeline.Begins (d.dispatch requestId inc) first req resp) ∧
      ∀ first req resp, d.pipeline.Begins (d.dispatch requestId inc) first req resp →
        (∀ form, inc.Posts form → first.params = parse (queryText inc.url ++ "&" ++ form)) ∧
        ((∀ form, ¬ inc.Posts form) → first.params = parse (queryText inc.url)) := by
  refine ⟨fun _ _ _ _ => Params.get?_parseInto_eq_some_iff, Params.parseInto_append, fun d requestId inc => ⟨?_, ?_⟩⟩
  · exact ⟨_, _, _, (d.begins_dispatch_iff requestId inc).2 ⟨rfl, rfl, rfl⟩⟩
  · intro first req resp hbegins
    obtain ⟨rfl, -, -⟩ := (d.begins_dispatch_iff requestId inc).1 hbegins
    exact ⟨fun form h => Incoming.params_of_posts h, Incoming.params_of_not_posts⟩

def pageAlone : Dispatcher where
  table := {}
  pipeline := {}
  fallback := .page defaultPage

def postedForm : Incoming := { method := "post", url := "/form?a=1&b=query", body := Text.toBytes "b=body&&c" }

/-- The form has a later pair for a key of the query, and a key without a value. -/
theorem posted_pair_counts : postedForm.Posts "b=body&&c" ∧
    ∃ first req resp, pageAlone.pipeline.Begins (pageAlone.dispatch "a" postedForm) first req resp ∧
      first.params = Dict.ofList [("a", "1"), ("b", "body"), ("c", "")] := by
  have hposts : postedForm.Posts "b=body&&c" := ⟨by decide, by decide, rfl⟩
  obtain ⟨-, -, hdispatch⟩ := last_pair_counts
  obtain ⟨⟨first, req, resp, hbegins⟩, hparams⟩ := hdispatch pageAlone "a" postedForm
  refine ⟨hposts, first, req, resp, hbegins, ?_⟩
  rw [(hparams first req resp hbegins).1 _ hposts]
  decide +kernel

end PathRouter
