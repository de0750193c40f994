import AnswerGateway.Cache.Record
import AnswerGateway.Proofs.Json.Whole

/-!
What a cache service is asked and what it answers, read back as it was written.
-/

namespace AnswerGateway.Cache

open Json

theorem Record.reads_write (r : Record) {depth : Nat} (deep : 1 < depth) :
    Reads ((Record.format : Reader Record) depth) r.write r := by
  have text (s : String) := reads_text s (depth - 1)
  have usage := reads_word32 r.tokenUsage (depth - 1)
  apply reads_readRecord deep
  refine .known rfl rfl ((text r.prompt).map fun v (r : Record) => { r with prompt := v }) ?_
  refine .known rfl rfl ((text r.response).map fun v (r : Record) => { r with response := v }) ?_
  refine .known rfl rfl ((text r.model).map fun v (r : Record) => { r with model := v }) ?_
  exact .known rfl rfl (usage.map fun v (r : Record) => { r with tokenUsage := v }) (.done rfl)

theorem LookupResult.reads_write (r : LookupResult) {depth : Nat} (deep : 1 < depth) :
    Reads ((LookupResult.format : Reader LookupResult) depth) r.write r := by
  have hit := (reads_readFlag r.hit).map fun v (r : LookupResult) => { r with hit := v }
  have answer :=
    (reads_text r.answer (depth - 1)).map fun v (r : LookupResult) => { r with answer := v }
  exact reads_readRecord deep (.known rfl rfl hit (.known rfl rfl answer (.done rfl)))

theorem LookupRequest.reads_write (q : LookupRequest) {depth : Nat} (deep : 1 < depth) :
    Reads ((LookupRequest.format : Reader LookupRequest) depth) q.write q := by
  have prompt :=
    (reads_text q.prompt (depth - 1)).map fun v (q : LookupRequest) => { q with prompt := v }
  have model :=
    (reads_text q.model (depth - 1)).map fun v (q : LookupRequest) => { q with model := v }
  exact reads_readRecord deep (.known rfl rfl prompt (.known rfl rfl model (.done rfl)))

theorem RecordResponse.reads_write (r : RecordResponse) {depth : Nat} (deep : 1 < depth) :
    Reads ((RecordResponse.format : Reader RecordResponse) depth) r.write r := by
  have accepted :=
    (reads_readFlag r.accepted).map fun v (r : RecordResponse) => { r with accepted := v }
  exact reads_readRecord deep (.known rfl rfl accepted (.done rfl))

end AnswerGateway.Cache
