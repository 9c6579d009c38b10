import CivicReport.Registry

/-!
The registry of a municipal budget: projects with their transactions, budget items and funding
permissions, and a comprehensive view for questions that fit none of these.
-/
namespace CivicReport.Registry

def projects : Domain where
  key := "tabarim"
  label := "תב״רים"
  description := "פרויקטים בתקציב הבלתי רגיל"
  table := "tabarim"
  primaryKey := "id"
  fields :=
    [{ key := "tabar_number", label := "מספר תב״ר", kind := .text, filterable := true,
       searchable := true },
     { key := "name", label := "שם הפרויקט", kind := .text, searchable := true },
     { key := "department", label := "מחלקה", kind := .text, filterable := true },
     { key := "ministry", label := "משרד מממן", kind := .text, filterable := true,
       searchable := true },
     { key := "status", label := "סטטוס", kind := .enumeration,
       enumValues := some ["פעיל", "סגור", "מאושר", "בביצוע", "ממתין לאישור"],
       filterable := true },
     { key := "total_authorized", label := "תקציב מאושר", kind := .currency, filterable := true,
       aggregatable := true },
     { key := "total_spent", label := "ביצוע בפועל", kind := .currency, filterable := true,
       aggregatable := true },
     { key := "utilization", label := "אחוז ניצול", kind := .percentage, filterable := true,
       derivedFrom := some "total_spent" },
     { key := "start_date", label := "תאריך פתיחה", kind := .date, filterable := true },
     { key := "year", label := "שנה", kind := .integer, filterable := true,
       derivedFrom := some "start_date" }]
  defaultFields :=
    ["tabar_number", "name", "department", "status", "total_authorized", "total_spent"]
  primaryWords := ["תב״ר", "פרויקט", "פרוייקט", "project"]
  secondaryWords := ["תקציב", "ניצול", "ביצוע", "מאושר"]

def transactions : Domain where
  key := "transactions"
  label := "תנועות כספיות"
  description := "חשבוניות, תשלומים ותקבולים המשויכים לתב״רים"
  table := "transactions"
  primaryKey := "id"
  fields :=
    [{ key := "transaction_date", label := "תאריך תנועה", kind := .date, filterable := true },
     { key := "tabar_number", label := "מספר תב״ר", kind := .text,
       foreignKey := some "tabarim.tabar_number", filterable := true },
     { key := "supplier", label := "ספק", kind := .text, filterable := true, searchable := true },
     { key := "description", label := "תיאור", kind := .text, searchable := true },
     { key := "amount", label := "סכום", kind := .currency, filterable := true,
       aggregatable := true },
     { key := "transaction_type", label := "סוג תנועה", kind := .enumeration,
       enumValues := some ["הכנסה", "הוצאה"], filterable := true },
     { key := "status", label := "סטטוס תשלום", kind := .enumeration,
       enumValues := some ["שולם", "לא שולם", "ממתין"], filterable := true },
     { key := "order_number", label := "מספר הזמנה", kind := .text, filterable := true,
       searchable := true },
     { key := "department", label := "מחלקה", kind := .text, filterable := true },
     { key := "year", label := "שנה", kind := .integer, filterable := true,
       derivedFrom := some "transaction_date" }]
  defaultFields :=
    ["transaction_date", "tabar_number", "supplier", "description", "amount", "status"]
  primaryWords := ["חשבוניות", "חשבונית", "תנועות", "תשלומים", "transactions", "invoices"]
  secondaryWords := ["ספק", "שקל", "₪", "הזמנת", "הוצאות", "הכנסות"]

def budgetItems : Domain where
  key := "budget_items"
  label := "סעיפי תקציב"
  description := "סעיפי התקציב המרכיבים כל תב״ר"
  table := "budget_items"
  primaryKey := "id"
  fields :=
    [{ key := "item_code", label := "קוד סעיף", kind := .text, filterable := true,
       searchable := true },
     { key := "name", label := "שם סעיף", kind := .text, searchable := true },
     { key := "tabar_number", label := "מספר תב״ר", kind := .text,
       foreignKey := some "tabarim.tabar_number", filterable := true },
     { key := "department", label := "מחלקה", kind := .text, filterable := true },
     { key := "approved_budget", label := "תקציב סעיף", kind := .currency, filterable := true,
       aggregatable := true },
     { key := "executed", label := "ביצוע סעיף", kind := .currency, filterable := true,
       aggregatable := true },
     { key := "year", label := "שנת תקציב", kind := .integer, filterable := true }]
  defaultFields := ["item_code", "name", "tabar_number", "approved_budget", "executed"]
  primaryWords := ["סעיף", "סעיפי", "budget item"]
  secondaryWords := ["תקציבי", "הקצאה"]

def permissions : Domain where
  key := "permissions"
  label := "הרשאות תקציביות"
  description := "הרשאות מימון ממשרדי ממשלה"
  table := "permissions"
  primaryKey := "id"
  fields :=
    [{ key := "permission_number", label := "מספר הרשאה", kind := .text, filterable := true,
       searchable := true },
     { key := "tabar_number", label := "מספר תב״ר", kind := .text,
       foreignKey := some "tabarim.tabar_number", filterable := true },
     { key := "ministry", label := "משרד", kind := .text, filterable := true, searchable := true },
     { key := "amount", label := "סכום הרשאה", kind := .currency, filterable := true,
       aggregatable := true },
     { key := "status", label := "סטטוס הרשאה", kind := .enumeration,
       enumValues := some ["בתוקף", "פגה", "מומשה"], filterable := true },
     { key := "issue_date", label := "תאריך הנפקה", kind := .date, filterable := true },
     { key := "valid_until", label := "בתוקף עד", kind := .date, filterable := true },
     { key := "year", label := "שנה", kind := .integer, filterable := true,
       derivedFrom := some "issue_date" }]
  defaultFields :=
    ["permission_number", "tabar_number", "ministry", "amount", "valid_until", "status"]
  primaryWords := ["הרשאה", "הרשאות", "permission"]
  secondaryWords := ["משרד", "תוקף", "מימון"]

def comprehensive : Domain where
  key := "comprehensive"
  label := "דוח מקיף"
  description := "תמונה מלאה של תב״רים כולל תנועות, סעיפים והרשאות"
  table := "tabarim"
  primaryKey := "id"
  fields :=
    [{ key := "tabar_number", label := "מספר תב״ר", kind := .text, filterable := true,
       searchable := true },
     { key := "name", label := "שם הפרויקט", kind := .text, searchable := true },
     { key := "department", label := "מחלקה", kind := .text, filterable := true },
     { key := "status", label := "סטטוס", kind := .enumeration,
       enumValues := some ["פעיל", "סגור", "מאושר", "בביצוע", "ממתין לאישור"],
       filterable := true },
     { key := "total_authorized", label := "תקציב מאושר", kind := .currency, filterable := true,
       aggregatable := true },
     { key := "total_spent", label := "ביצוע בפועל", kind := .currency, filterable := true,
       aggregatable := true },
     { key := "transactions_total", label := "סך תנועות", kind := .currency, filterable := true,
       aggregatable := true },
     { key := "suppliers", label := "ספקים", kind := .text, searchable := true },
     { key := "budget_items_count", label := "מספר סעיפים", kind := .integer,
       aggregatable := true },
     { key := "ministries", label := "משרדים מממנים", kind := .text, filterable := true,
       searchable := true },
     { key := "year", label := "שנה", kind := .integer, filterable := true,
       derivedFrom := some "start_date" },
     { key := "start_date", label := "תאריך פתיחה", kind := .date, filterable := true }]
  defaultFields :=
    ["tabar_number", "name", "department", "status", "total_authorized", "total_spent",
      "transactions_total"]
  primaryWords := ["דוח מקיף", "מקיף", "comprehensive", "overview"]
  secondaryWords := ["סיכום", "כל הנתונים", "תמונה מלאה"]
  isFallback := true

/-- The built-in registry. -/
def municipal : Registry where
  domains := [projects, transactions, budgetItems, permissions, comprehensive]
  fallback := comprehensive

end CivicReport.Registry
