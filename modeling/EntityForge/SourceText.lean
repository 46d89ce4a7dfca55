/-!
# Source texts of the artifacts

The TypeScript sources that are generated, as templates of whole lines, and the text that is left
when nothing is marked. The slots of the handlers are the entity's name, its table and its key as
string literals, and the message of a record that is not found; the declaration of the entity's
type has a slot for its fields, which are lines of their own.
-/

set_option autoImplicit false

namespace EntityForge.SourceText

/-- A text of whole lines. -/
def wholeLines (lines : List String) : List Char := lines.flatMap (fun line => line.toList ++ ['\n'])

/-- The declaration of an entity's type. -/
def typesTemplate : List Char :=
  wholeLines
  ["export type \x7b\x7bname\x7d\x7d = \x7b",
   "\x7b\x7bfields\x7d\x7d",
   "\x7d;"]

/-- What stands at the beginning of every handler. -/
def preamble : List Char :=
  wholeLines
  ["import \x7b DynamoDBClient \x7d from \"@aws-sdk/client-dynamodb\";",
   "import \x7b DynamoDBDocumentClient, PutCommand, GetCommand, ScanCommand, UpdateCommand, DeleteCommand \x7d from \"@aws-sdk/lib-dynamodb\";",
   "const client = new DynamoDBClient(\x7b\x7d);",
   "const ddb = DynamoDBDocumentClient.from(client);",
   "const res = (code: number, body?: unknown) => (\x7b",
   "  statusCode: code,",
   "  headers: \x7b",
   "    \"Content-Type\": \"application/json\",",
   "    \"Access-Control-Allow-Origin\": \"*\",",
   "    \"Access-Control-Allow-Headers\": \"Content-Type,Authorization\",",
   "    \"Access-Control-Allow-Methods\": \"GET,POST,PUT,DELETE,OPTIONS\"",
   "  \x7d,",
   "  body: body === undefined ? undefined : JSON.stringify(body)",
   "\x7d);",
   ""]

/-- The handler that creates a record. -/
def createTemplate : List Char :=
  wholeLines
  ["export const create\x7b\x7bname\x7d\x7d = async (event: any) => \x7b",
   "  if (event.httpMethod === \"OPTIONS\") return res(200);",
   "  const body = typeof event.body === \"string\" ? JSON.parse(event.body || \"\x7b\x7d\") : (event.body || \x7b\x7d);",
   "  const item = \x7b ...body, id: body.id ?? (globalThis.crypto?.randomUUID?.() ?? String(Date.now())), createdAt: Date.now() \x7d;",
   "  await ddb.send(new PutCommand(\x7b TableName: \x7b\x7btable\x7d\x7d, Item: item \x7d));",
   "  return res(201, item);",
   "\x7d"]

/-- The handlers that list all records and get one. -/
def readTemplate : List Char :=
  wholeLines
  ["export const list\x7b\x7bname\x7d\x7ds = async () => \x7b",
   "  const out = await ddb.send(new ScanCommand(\x7b TableName: \x7b\x7btable\x7d\x7d \x7d));",
   "  return res(200, out.Items ?? []);",
   "\x7d",
   "",
   "export const get\x7b\x7bname\x7d\x7d = async (event: any) => \x7b",
   "  const id = event.pathParameters?.id;",
   "  if (!id) return res(400, \x7b error: \"id required\" \x7d);",
   "  const out = await ddb.send(new GetCommand(\x7b TableName: \x7b\x7btable\x7d\x7d, Key: \x7b \x7b\x7bhash_key\x7d\x7d: id \x7d \x7d));",
   "  return out.Item ? res(200, out.Item) : res(404, \x7b error: \x7b\x7bnot_found\x7d\x7d \x7d);",
   "\x7d"]

/-- The handler that changes a record. -/
def updateTemplate : List Char :=
  wholeLines
  ["export const update\x7b\x7bname\x7d\x7d = async (event: any) => \x7b",
   "  const id = event.pathParameters?.id;",
   "  if (!id) return res(400, \x7b error: \"id required\" \x7d);",
   "  const body = typeof event.body === \"string\" ? JSON.parse(event.body || \"\x7b\x7d\") : (event.body || \x7b\x7d);",
   "  const names: Record<string,string> = \x7b\x7d; const values: Record<string,unknown> = \x7b\x7d; const sets: string[] = [];",
   "  for (const [k,v] of Object.entries(body)) \x7b if (v === undefined) continue; names[\"#\"+k]=k; values[\":\"+k]=v; sets.push(`#$\x7bk\x7d = :$\x7bk\x7d`); \x7d",
   "  if (sets.length === 0) return res(400, \x7b error: \"no fields\" \x7d);",
   "  const out = await ddb.send(new UpdateCommand(\x7b",
   "    TableName: \x7b\x7btable\x7d\x7d, Key: \x7b \x7b\x7bhash_key\x7d\x7d: id \x7d,",
   "    UpdateExpression: `SET $\x7bsets.join(\", \")\x7d`,",
   "    ExpressionAttributeNames: names,",
   "    ExpressionAttributeValues: values,",
   "    ReturnValues: \"ALL_NEW\"",
   "  \x7d));",
   "  return res(200, out.Attributes);",
   "\x7d"]

/-- The handler that deletes a record. -/
def deleteTemplate : List Char :=
  wholeLines
  ["export const delete\x7b\x7bname\x7d\x7d = async (event: any) => \x7b",
   "  const id = event.pathParameters?.id;",
   "  if (!id) return res(400, \x7b error: \"id required\" \x7d);",
   "  await ddb.send(new DeleteCommand(\x7b TableName: \x7b\x7btable\x7d\x7d, Key: \x7b \x7b\x7bhash_key\x7d\x7d: id \x7d \x7d));",
   "  return res(204);",
   "\x7d"]

/-- The file that exports the symbols of all handlers. -/
def indexTemplate : List Char :=
  wholeLines
  ["export \x7b create\x7b\x7bname\x7d\x7d \x7d from \"./create\";",
   "export \x7b list\x7b\x7bname\x7d\x7ds, get\x7b\x7bname\x7d\x7d \x7d from \"./read\";",
   "export \x7b update\x7b\x7bname\x7d\x7d \x7d from \"./update\";",
   "export \x7b delete\x7b\x7bname\x7d\x7d \x7d from \"./delete\";"]

/-- What is left when nothing is marked. -/
def diagnosticTemplate : List Char :=
  "No structures annotated with @\x7b\x7bmarker_id\x7d\x7d were found.".toList

end EntityForge.SourceText
