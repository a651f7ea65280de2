import PathRouter.Service.RouteTable
/-!
# What is pushed to a table

A table keeps the routes of each method apart.  The routes of a method are those that were pushed for it, in the order in
which they were pushed (`routesFor_pushAll`), and the table is as large as the number of all that were (`size_pushAll`).
-/
namespace PathRouter

theorem Method.mem_all (m : Method) : m ∈ Method.all := by
  cases m <;> decide

namespace RouteTable

variable (t : RouteTable)

/-- All routes, method by method. -/
def entries : List (Method × RouteEntry) :=
  Method.all.flatMap (fun m => (t.routesFor m).map (fun e => (m, e)))

/-- Pushes one route after the other. -/
def pushAll (es : List (Method × RouteEntry)) : RouteTable :=
  es.foldl (fun t e => t.push e.1 e.2) t

variable {t}

theorem mem_entries {e : Method × RouteEntry} : e ∈ t.entries ↔ e.2 ∈ t.routesFor e.1 := by
  unfold entries
  rw [List.mem_flatMap]
  constructor
  · rintro ⟨m, -, h⟩
    obtain ⟨e', he', rfl⟩ := List.mem_map.1 h
    exact he'
  · exact fun h => ⟨e.1, e.1.mem_all, List.mem_map.2 ⟨e.2, h, rfl⟩⟩

theorem routesFor_push (m m' : Method) (e : RouteEntry) :
    (t.push m e).routesFor m' = t.routesFor m' ++ if m = m' then [e] else [] := by
  unfold routesFor push
  by_cases h : m = m'
  · simp [h]
  · simp [h, Ne.symm h]

/-- **The routes of a method** are the subsequence of what was pushed for it. -/
theorem routesFor_pushAll (m : Method) : ∀ {es : List (Method × RouteEntry)} {t : RouteTable},
    (t.pushAll es).routesFor m = t.routesFor m ++ (es.filter (fun e => e.1 == m)).map (·.2)
  | [], t => (List.append_nil _).symm
  | (m', e) :: es, t => by
    show ((t.push m' e).pushAll es).routesFor m = _
    rw [routesFor_pushAll m, routesFor_push, List.append_assoc, List.filter_cons]
    by_cases h : m' = m <;> simp [h]

theorem mem_entries_pushAll {es : List (Method × RouteEntry)} {e : Method × RouteEntry} :
    e ∈ (pushAll {} es).entries ↔ e ∈ es := by
  have hnone : (RouteTable.mk fun _ => []).routesFor e.1 = [] := rfl
  rw [mem_entries, routesFor_pushAll, hnone, List.nil_append, List.mem_map]
  constructor
  · rintro ⟨e', he', hroute⟩
    obtain ⟨hmem, hmethod⟩ := List.mem_filter.1 he'
    rwa [← Prod.ext (eq_of_beq hmethod) hroute]
  · exact fun h => ⟨e, List.mem_filter.2 ⟨h, beq_self_eq_true _⟩, rfl⟩

theorem size_push (m : Method) (e : RouteEntry) : (t.push m e).size = t.size + 1 := by
  cases m <;> simp [size, push, Method.all] <;> omega

/-- **The size of a table** grows with every push. -/
theorem size_pushAll : ∀ {es : List (Method × RouteEntry)} {t : RouteTable}, (t.pushAll es).size = t.size + es.length
  | [], _ => rfl
  | (m, e) :: es, t => by
    show ((t.push m e).pushAll es).size = _
    rw [size_pushAll, size_push, List.length_cons, Nat.add_assoc, Nat.add_comm 1]

end RouteTable
end PathRouter
