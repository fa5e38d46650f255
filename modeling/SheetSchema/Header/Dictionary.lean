import SheetSchema.Json.Access

/-!
# Dictionaries of headers

A dictionary gives values to header texts, and keeps its keys in order. The order matters where one
header holds several keys: the first key counts. The default dictionary holds common Japanese column
headers and the identifiers that they stand for.
-/

namespace SheetSchema.Header

/-- Header texts with their values. A value is mostly a text; `null` is none. -/
abbrev Dictionary := Entries Json

/-- The entry that a pair makes. A key that does not count as given is in no header, and any other
one has to be a text. -/
def Dictionary.entryOf? (key value : Json) : Except Error (Option (String × Json)) :=
  match key with
  | .str s => .ok (some (s, value))
  | key => if key.truthy then .error .wrongKind else .ok none

/-- The dictionary of an object or of a list of pairs, of which the last of a key counts. -/
def Dictionary.ofJson (given : Json) : Except Error Dictionary := do
  let entries ← (← given.pairsOf).mapM fun (key, value) => Dictionary.entryOf? key value
  return Entries.putAll [] (entries.filterMap id)

/-- Japanese headers and English identifiers. -/
def japaneseEnglishTexts : Entries String :=
  [("ID", "id"),
   ("メールID", "mailId"),
   ("メールID枝番", "mailIdBranch"),
   ("ユーザーID", "userId"),
   ("顧客ID", "customerId"),
   ("件名", "subject"),
   ("名前", "name"),
   ("氏名", "fullName"),
   ("受信日", "receivedDate"),
   ("確認者", "confirmer"),
   ("ステータス", "status"),
   ("分類", "category"),
   ("メールアドレス", "email"),
   ("広告媒体", "advertisingMedium"),
   ("初回希望日", "firstPreferredDate"),
   ("初回希望院", "firstPreferredClinic"),
   ("問い合わせ方法", "inquiryMethod"),
   ("タグ", "tags"),
   ("確認日", "confirmationDate"),
   ("不備なし／あり", "defectStatus"),
   ("不備内容詳細", "defectDetails"),
   ("修正完了日", "correctionCompletedDate"),
   ("集計用", "forAggregation"),
   ("作成日", "createdDate"),
   ("更新日", "updatedDate"),
   ("削除日", "deletedDate"),
   ("登録日", "registeredDate"),
   ("種類", "type"),
   ("状態", "state"),
   ("区分", "division"),
   ("担当者", "assignee"),
   ("作成者", "creator"),
   ("更新者", "updater"),
   ("内容", "content"),
   ("詳細", "details"),
   ("備考", "remarks"),
   ("メモ", "memo"),
   ("コメント", "comment"),
   ("説明", "description"),
   ("数", "count"),
   ("数値", "number"),
   ("金額", "amount"),
   ("価格", "price"),
   ("合計", "total")]

/-- The dictionary of Japanese headers. -/
def japaneseEnglish : Dictionary :=
  japaneseEnglishTexts.map fun (key, identifier) => (key, .str identifier)

end SheetSchema.Header
