import SheetSchema.Code.Template

/-!
# The templates of the operations

One template for each operation that a generated repository can offer. They read and write whole
rows through the row mappers; an operation that looks entities up calls `getAll` and takes the
position of an entity in its answer for the position of its row.
-/

namespace SheetSchema.Code.Template

/-- Read every entity. -/
def getAll : Template := ofLines [
  ["    const ", .declares "getAll", " = async (): Promise<", .feature, "[]> => \x7b"],
  ["      const ", .binds "response", " = await SheetsClient.batchGet(spreadsheetId, [", .range,
    "]);"],
  ["      const ", .binds "rows", " = response.valueRanges?.[0]?.values || [];"],
  [],
  ["      return rows"],
  ["        .filter((", .binds "row", ": string[]) => row && row[0] && row[0].trim() !== '')"],
  ["        .map((", .binds "row", ": string[]) => ", .fromRow, "(row));"],
  ["    \x7d;"]]

/-- Read one entity by its key. -/
def getById : Template := ofLines [
  ["    const ", .declares "getById", " = async (", .keyParameter "string", "): Promise<", .feature,
    " | null> => \x7b"],
  ["      const ", .binds "items", " = await ", .calls "getAll", "();"],
  ["      return items.find(", .binds "item", " => item.", .key, " === ", .key, ") || null;"],
  ["    \x7d;"]]

/-- Append a new entity. -/
def create : Template := ofLines [
  ["    const ", .declares "create", " = async (", .binds "data", ": Partial<", .feature,
    ">): Promise<", .feature, "> => \x7b"],
  ["      const ", .binds "item", ": ", .feature, " = \x7b", .newId],
  ["        ...data,"],
  ["        createdAt: new Date().toISOString(),"],
  ["        updatedAt: new Date().toISOString(),"],
  ["      \x7d as ", .feature, ";"],
  [],
  ["      const ", .binds "rowValues", " = ", .toRow, "(item);"],
  ["      await SheetsClient.appendValues(spreadsheetId, ", .range, ", [rowValues]);"],
  ["      return item;"],
  ["    \x7d;"]]

/-- The lines that look an entity up by its key and refuse where there is none. -/
def lookup : Template := ofLines [
  ["      const ", .binds "items", " = await ", .calls "getAll", "();"],
  ["      const ", .binds "index", " = items.findIndex(", .binds "item", " => item.", .key, " === ",
    .key, ");"],
  ["      if (index === -1) throw new Error(`", .feature, " $\x7b", .key, "\x7d not found`);"],
  [],
  ["      const ", .binds "rowNumber", " = index + ", .firstDataRow, ";"]]

/-- Overwrite the row of an entity. -/
def update : Template := ofLines [
  ["    const ", .declares "update", " = async (", .keyParameter "string", ", ", .binds "updates",
    ": Partial<", .feature, ">): Promise<void> => \x7b"]] ++ lookup ++ ofLines [
  ["      const ", .binds "current", " = items[index];"],
  ["      const ", .binds "updated", " = \x7b"],
  ["        ...current,"],
  ["        ...updates,"],
  ["        updatedAt: new Date().toISOString(),"],
  ["      \x7d;"],
  [],
  ["      const ", .binds "values", " = ", .toRow, "(updated);"],
  ["      const ", .binds "sheetName", " = ", .sheetName, ";"],
  ["      const ", .binds "range", " = ", .rowRange, ";"],
  ["      await SheetsClient.updateValues(spreadsheetId, range, [values]);"],
  ["    \x7d;"]]

/-- Clear the row of an entity. -/
def deleteById : Template := ofLines [
  ["    const ", .declares "deleteById", " = async (", .keyParameter "string",
    "): Promise<void> => \x7b"]] ++ lookup ++ ofLines [
  ["      const ", .binds "sheetName", " = ", .sheetName, ";"],
  ["      const ", .binds "range", " = ", .rowRange, ";"],
  [],
  ["      const ", .binds "emptyValues", " = new Array(", .rowWidth, ").fill('');"],
  ["      await SheetsClient.updateValues(spreadsheetId, range, [emptyValues]);"],
  ["    \x7d;"]]

/-- Read the values of a range. -/
def getRange : Template := ofLines [
  ["    const ", .declares "getRange", " = async (", .binds "range",
    ": string): Promise<any[][]> => \x7b"],
  ["      const ", .binds "response", " = await SheetsClient.batchGet(spreadsheetId, [range]);"],
  ["      return response.valueRanges?.[0]?.values || [];"],
  ["    \x7d;"]]

/-- Write values to a range. -/
def setRange : Template := ofLines [
  ["    const ", .declares "setRange", " = async (", .binds "range", ": string, ", .binds "values",
    ": any[][]): Promise<void> => \x7b"],
  ["      await SheetsClient.updateValues(spreadsheetId, range, values);"],
  ["    \x7d;"]]

/-- Clear the values of a range. -/
def clearRange : Template := ofLines [
  ["    const ", .declares "clearRange", " = async (", .binds "range",
    ": string): Promise<void> => \x7b"],
  ["      await SheetsClient.clearValues(spreadsheetId, range);"],
  ["    \x7d;"]]

/-- Give the cells of a range a format. -/
def formatCells : Template := ofLines [
  ["    const ", .declares "formatCells", " = async (", .binds "range", ": string, ",
    .binds "format", ": any): Promise<void> => \x7b"],
  ["      await SheetsClient.batchUpdate(spreadsheetId, ["],
  ["        \x7b"],
  ["          repeatCell: \x7b"],
  ["            range: SheetsClient.a1ToGridRange(range),"],
  ["            cell: \x7b userEnteredFormat: format \x7d,"],
  ["            fields: 'userEnteredFormat',"],
  ["          \x7d,"],
  ["        \x7d,"],
  ["      ]);"],
  ["    \x7d;"]]

/-- Filter the entities. -/
def search : Template := ofLines [
  ["    const ", .declares "search", " = async (", .binds "predicate", ": (item: ", .feature,
    ") => boolean): Promise<", .feature, "[]> => \x7b"],
  ["      const ", .binds "items", " = await ", .calls "getAll", "();"],
  ["      return items.filter(predicate);"],
  ["    \x7d;"]]

/-- Count the entities. -/
def count : Template := ofLines [
  ["    const ", .declares "count", " = async (): Promise<number> => \x7b"],
  ["      const ", .binds "items", " = await ", .calls "getAll", "();"],
  ["      return items.length;"],
  ["    \x7d;"]]

/-- Append several entities. -/
def batchCreate : Template := ofLines [
  ["    const ", .declares "batchCreate", " = async (", .binds "items", ": Partial<", .feature,
    ">[]): Promise<", .feature, "[]> => \x7b"],
  ["      const ", .binds "created", " = items.map(", .binds "data", " => (\x7b", .newId],
  ["        ...data,"],
  ["        createdAt: new Date().toISOString(),"],
  ["        updatedAt: new Date().toISOString(),"],
  ["      \x7d as ", .feature, "));"],
  [],
  ["      const ", .binds "rows", " = created.map(", .binds "item", " => ", .toRow, "(item));"],
  ["      await SheetsClient.appendValues(spreadsheetId, ", .range, ", rows);"],
  ["      return created;"],
  ["    \x7d;"]]

/-- Overwrite several rows. -/
def batchUpdate : Template := ofLines [
  ["    const ", .declares "batchUpdate", " = async (", .binds "updates",
    ": Array<\x7b id: string; data: Partial<", .feature, "> \x7d>): Promise<void> => \x7b"],
  ["      const ", .binds "items", " = await ", .calls "getAll", "();"],
  ["      const ", .binds "updateMap", " = new Map(updates.map(", .binds "u",
    " => [u.id, u.data]));"],
  [],
  ["      const ", .binds "valueRanges", " = items"],
  ["        .map((", .binds "item", ", ", .binds "index", ") => \x7b"],
  ["          const ", .binds "key", " = item.", .key, ";"],
  ["          if (!key) return null;"],
  ["          const ", .binds "updateData", " = updateMap.get(key);"],
  ["          if (!updateData) return null;"],
  [],
  ["          const ", .binds "updated",
    " = \x7b ...item, ...updateData, updatedAt: new Date().toISOString() \x7d;"],
  ["          const ", .binds "rowNumber", " = index + ", .firstDataRow, ";"],
  ["          const ", .binds "sheetName", " = ", .sheetName, ";"],
  [],
  ["          return \x7b"],
  ["            range: ", .rowRange, ","],
  ["            values: [", .toRow, "(updated)],"],
  ["          \x7d;"],
  ["        \x7d)"],
  ["        .filter((", .binds "vr",
    "): vr is \x7b range: string; values: any[][] \x7d => vr !== null);"],
  [],
  ["      if (valueRanges.length > 0) \x7b"],
  ["        await SheetsClient.batchUpdateValues(spreadsheetId, valueRanges);"],
  ["      \x7d"],
  ["    \x7d;"]]

end SheetSchema.Code.Template
